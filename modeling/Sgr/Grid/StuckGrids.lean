import Mathlib.Data.Fintype.Basic
import Sgr.Grid.CrashConsistency
import Sgr.Grid.LevelTotals

/-!
# Grids that can still be closed

`close_grid` sets `CLOSING` before its first order and `CLOSED` after its last one, and
works on active grids only. A call that raises, a process that dies in between and an order
that is not filled leave a grid that is not active and still holds something: no further
call closes it, and a restart takes its status from the row. A grid whose status is not
active has no filled level when none of this happens.
-/

open Concurrency

namespace Sgr

/-- Every order of the call is filled. -/
def CloseCall.FillsAll (call : CloseCall) : Prop :=
  ∀ i, (call.level i).allowed = true ∧ ∀ o : OrderRequest, 0 < o.quantity →
    ∃ r, (call.level i).execute o false = .returned r ∧ r.status = .filled ∧
      r.filledQuantity = o.quantity

/-- A `close_grid` call whose orders are filled leaves no filled level. -/
def GridWork.Flattens (w : GridWork) : Prop :=
  ∀ (call : CloseCall) (reason : String) (price : ℚ) (force : Bool), call.FillsAll →
    ∃ w', closeGrid call reason price force w = (w', false) ∧
      ∀ l ∈ w'.grid.levels, l.isFilled = false

/-- The grid can be closed: where no `close_grid` call is in its loop, a further one leaves
no filled level, and a stored grid that is not restored any more has none. -/
structure CanBeClosed {ι : Type*} (P : Pool ι GridShared GridPc) : Prop where
  memory : (∀ i, (P.task i).isClosing = false) → P.shared.work.Flattens
  stored : ∀ row ∈ P.shared.row, row.status.isOpen = false →
    ∀ l ∈ row.levels, l.isFilled = false

/-! ### The condition -/

/-- The order of the call raises. -/
def GridPc.raises : GridPc → GridEvent → Bool
  | .executing _ _ _, .executed .raised => true
  | _, _ => false

/-- An opening fill is booked while the grid is active, or before a `close_grid` call under
way has passed its level; the fill of a closing order leaves nothing of its level, and when
`close_grid` goes on from a level or raises, nothing is left for it to close. An opening
quantity is not rounded to nothing in the ledger. -/
structure ClosesThrough {ι : Type*} (cfg : GridConfig) (P : Pool ι GridShared GridPc) (i : ι)
    (e : GridEvent) : Prop where
  opening : ∀ x ∈ (P.task i).books cfg e, x.1.opening = true →
    P.shared.grid.isActive = true ∨ ∃ j, (P.task j).isClosing = true
  unpassed : ∀ x ∈ (P.task i).books cfg e, x.1.opening = true →
    ∀ j, ¬ (P.task j).HasPassed x.1.place
  closes : (P.task i).isClosing = true → ∀ x ∈ (P.task i).books cfg e,
    P.shared.held x.1.place - x.2 ≤ gridEpsilon
  leaves : (P.task i).isClosing = true → ∀ f ∈ (P.task i).givesUp e,
    P.shared.isFilledAt f.place = false
  raises : (P.task i).isClosing = true → (P.task i).raises e = true →
    ∀ l ∈ P.shared.grid.levels, l.isFilled = false
  written : ∀ x ∈ (P.task i).recordedFill cfg P.shared e, x.isOpening = true → 0 < x.quantity

/-- The calls close through, and the process dies only while the row of the grid says that
the grid is active or the ledger has nothing open. -/
def ClosedThrough {ι : Type*} (cfg : GridConfig) (prices : List ℚ)
    (P : Pool ι GridShared GridPc) : GridAction ι → Prop
  | .wake i w => ClosesThrough cfg P i w.event
  | .restart _ _ => ∀ row ∈ P.shared.row, row.isActive = true ∨
      ∀ l ∈ replay (freshLevels prices) (getFills P.shared.ledger), l.isFilled = false

section Decidability

variable {ι : Type*} [Fintype ι] (cfg : GridConfig) (prices : List ℚ)

instance (P : Pool ι GridShared GridPc) (i : ι) (e : GridEvent) :
    Decidable (ClosesThrough cfg P i e) :=
  decidable_of_iff
    ((∀ x ∈ (P.task i).books cfg e, x.1.opening = true →
        P.shared.grid.isActive = true ∨ ∃ j, (P.task j).isClosing = true) ∧
      (∀ x ∈ (P.task i).books cfg e, x.1.opening = true →
        ∀ j, ¬ (P.task j).HasPassed x.1.place) ∧
      ((P.task i).isClosing = true → ∀ x ∈ (P.task i).books cfg e,
        P.shared.held x.1.place - x.2 ≤ gridEpsilon) ∧
      ((P.task i).isClosing = true → ∀ f ∈ (P.task i).givesUp e,
        P.shared.isFilledAt f.place = false) ∧
      ((P.task i).isClosing = true → (P.task i).raises e = true →
        ∀ l ∈ P.shared.grid.levels, l.isFilled = false) ∧
      ∀ x ∈ (P.task i).recordedFill cfg P.shared e, x.isOpening = true → 0 < x.quantity)
    ⟨fun h => ⟨h.1, h.2.1, h.2.2.1, h.2.2.2.1, h.2.2.2.2.1, h.2.2.2.2.2⟩,
      fun h => ⟨h.1, h.2, h.3, h.4, h.5, h.6⟩⟩

instance (P : Pool ι GridShared GridPc) : ∀ a, Decidable (ClosedThrough cfg prices P a)
  | .wake i w => inferInstanceAs (Decidable (ClosesThrough cfg P i w.event))
  | .restart _ _ => inferInstanceAs (Decidable (∀ row ∈ P.shared.row, _ ∨ _))

end Decidability

/-! ### Closing with every order filled -/

section Closing

variable {call : CloseCall} {w : GridWork} {price : ℚ} {force : Bool}

/-- The order of a sound filled level is filled by what the level holds. -/
theorem CloseCall.FillsAll.filledBy (h : call.FillsAll) {g : GridState} {l : GridLevelState}
    (hsound : l.Sound) (hfilled : l.isFilled = true) (fillType : String) (i : ℕ) :
    filledBy g l price fillType (call.level i) = some l.quantity := by
  have hpos : 0 < l.quantity := by simpa [GridLevelState.Sound, hfilled] using hsound
  obtain ⟨hallowed, hfills⟩ := h i
  have horder : ∃ o, levelOrder g l price false fillType (call.level i).id = some o ∧
      o.quantity = l.quantity := by
    simp [levelOrder, fillQuantity, hpos]
  obtain ⟨o, ho, hquantity⟩ := horder
  obtain ⟨r, hr, hstatus, hamount⟩ := hfills o (hquantity ▸ hpos)
  rw [Sgr.filledBy, ho, Option.bind_some, hallowed, hr]
  simp [acceptedFill, hstatus, hamount, hquantity, hpos]

theorem CloseCall.FillsAll.closesAll (h : call.FillsAll) {g : GridState}
    (hsound : ∀ l ∈ g.levels, l.Sound) : ClosesAll call price force g := by
  intro i l hl hfilled
  refine ⟨l.quantity, h.filledBy (hsound l (List.mem_of_getElem? hl)) hfilled _ i, ?_⟩
  rw [sub_self]
  exact gridEpsilon_pos.le

theorem CloseCall.FillsAll.fillLevel_snd (h : call.FillsAll) (w : GridWork) (i : ℕ)
    (fillType : String) : (fillLevel w i price false fillType (call.level i)).2 = false := by
  unfold fillLevel
  split
  · rfl
  next l hl =>
    split
    · rfl
    next o ho =>
      have hpos : 0 < o.quantity := by
        obtain ⟨quantity, hquantity, rfl⟩ := Option.map_eq_some_iff.1 ho
        simp only [fillQuantity, Bool.false_eq_true, if_false] at hquantity
        split at hquantity
        · cases hquantity
        next hle =>
          obtain rfl := Option.some.inj hquantity
          exact not_le.1 hle
      obtain ⟨r, hr, -⟩ := (h i).2 o hpos
      rw [hr]
      split <;> rfl

theorem CloseCall.FillsAll.closeLevels_snd (h : call.FillsAll) (is : List ℕ) (w : GridWork) :
    (closeLevels call price force is w).2 = false := by
  induction is generalizing w with
  | nil => rfl
  | cons i is ih =>
      have hfill : (fillLevel w i price false (closeFillType force) (call.level i)).2 = false :=
        h.fillLevel_snd w i (closeFillType force)
      rw [closeLevels]
      split
      · split
        next v hv =>
          rw [hv] at hfill
          cases hfill
        next v hv => exact ih v
      · exact ih w

/-- A call that fills every order. -/
def CloseCall.filling : CloseCall where
  level := fun i =>
    { id := i
      now := 0
      execute := fun o _ => .returned
        { requestId := o.id
          exchangeOrderId := "PAPER-" ++ toString o.id
          symbol := o.symbol
          status := .filled
          filledQuantity := o.quantity
          averageFillPrice := none
          tradingMode := o.tradingMode
          rawResponse := {} } }
  closedAt := 0

theorem CloseCall.fillsAll_filling : CloseCall.filling.FillsAll :=
  fun _ => ⟨rfl, fun _ _ => ⟨_, rfl, rfl, rfl⟩⟩

/-- A sound grid can be closed exactly when it is active or has nothing to close. -/
theorem GridWork.flattens_iff (hsound : ∀ l ∈ w.grid.levels, l.Sound) :
    w.Flattens ↔ w.grid.isActive = true ∨ ∀ l ∈ w.grid.levels, l.isFilled = false := by
  constructor
  · intro h
    by_cases hactive : w.grid.isActive = true
    · exact .inl hactive
    · obtain ⟨w', hclose, hempty⟩ := h .filling "" 0 true CloseCall.fillsAll_filling
      rw [closeGrid_of_not_isActive hactive] at hclose
      obtain rfl : w = w' := congrArg Prod.fst hclose
      exact .inr hempty
  · intro h call reason price force hfills
    by_cases hactive : w.grid.isActive = true
    · have hreturns : (closeGrid call reason price force w).2 = false := by
        have hloop : (closeLevels call price force (List.range w.grid.levels.length)
            { w with grid := { w.grid with status := .closing } }).2 = false :=
          hfills.closeLevels_snd _ _
        unfold closeGrid
        split
        · rfl
        · split
          next v hv =>
            rw [hv] at hloop
            cases hloop
          next => rfl
      refine ⟨_, Prod.ext rfl hreturns, ?_⟩
      obtain ⟨-, hloop⟩ := closeGrid_of_isActive hactive (Prod.ext rfl hreturns)
      exact hloop.forall_not_isFilled_iff.2 (hfills.closesAll hsound)
    · exact ⟨w, closeGrid_of_not_isActive hactive, h.resolve_left hactive⟩

end Closing

/-! ### What a segment does to the status -/

/-- What a segment does to the status of the grid, and to the loop of its call. -/
inductive StatusStep (s : GridShared) (pc : GridPc) (e : GridEvent) :
    GridShared → GridPc → Prop
  | stays {t : GridShared} {pc' : GridPc} (hstatus : t.grid.status = s.grid.status)
      (hpc : pc'.isClosing = pc.isClosing) : StatusStep s pc e t pc'
  | begins {t : GridShared} {pc' : GridPc} (hactive : s.grid.isActive = true)
      (hstatus : t.grid.status = .closing) (hpc : pc'.isClosing = true) :
      StatusStep s pc e t pc'
  | ends {t : GridShared} {pc' : GridPc}
      (hstart : pc.isClosing = true ∨ s.grid.isActive = true)
      (hpc : pc'.isClosing = false) (hempty : ∀ l ∈ t.grid.levels, l.isFilled = false) :
      StatusStep s pc e t pc'
  | raises {pc' : GridPc} (hraises : pc.raises e = true) (hpc : pc'.isClosing = false) :
      StatusStep s pc e s pc'

/-- What a segment keeps: sound levels, a call that suits the grid, and that no level gets
filled but one that the call opens. -/
structure CloseKeeps (s : GridShared) (pc : GridPc) (e : GridEvent)
    (c : GridShared × GridPc) (opens : ℕ → Prop) : Prop where
  sound : ∀ l ∈ c.1.grid.levels, l.Sound
  fits : c.2.Fits c.1
  filled : ∀ i, c.1.isFilledAt i = true → s.isFilledAt i = true ∨ opens i
  status : StatusStep s pc e c.1 c.2

section Segments

variable {cfg : GridConfig} {id : UUID} {now : Timestamp} {s t : GridShared} {pc pc' : GridPc}
  {e : GridEvent} {w : GridWake} {opens : ℕ → Prop}

theorem GridPc.isClosing_of_frame {k : GridFrame} (h : pc.frame = some k) :
    pc.isClosing = k.loop.isClose := by
  rw [GridPc.isClosing, h, Option.any_some]

theorem GridPc.isClosing_of_frame_eq_none (h : pc.frame = none) : pc.isClosing = false := by
  rw [GridPc.isClosing, h, Option.any_none]

/-- A segment that leaves the grid alone. -/
theorem CloseKeeps.of_grid_eq (hsound : ∀ l ∈ s.grid.levels, l.Sound) (hgrid : t.grid = s.grid)
    (hpc : pc'.Fits s) (hclosing : pc'.isClosing = pc.isClosing) :
    CloseKeeps s pc e (t, pc') opens := by
  have hlevels : t.grid.levels = s.grid.levels := by rw [hgrid]
  refine ⟨by rwa [hlevels], hpc.congr fun i hi => hpc.passed i ?_, fun i hi => .inl ?_,
    .stays (by rw [hgrid]) hclosing⟩
  · rwa [isFilledAt_congr hlevels] at hi
  · rwa [isFilledAt_congr hlevels] at hi

/-- A segment of `_persist` leaves the grid alone and keeps the loop of its call. -/
theorem CloseKeeps.of_frame_eq (hsound : ∀ l ∈ s.grid.levels, l.Sound) (hpc : pc.Fits s)
    (hgrid : t.grid = s.grid) (hframe : pc'.frame = pc.frame) (hfill : pc'.fill = pc.fill)
    (hfilled : pc'.filled = none) : CloseKeeps s pc e (t, pc') opens :=
  .of_grid_eq hsound hgrid (hpc.of_frame_eq hframe hfill hfilled)
    (by rw [GridPc.isClosing, hframe, GridPc.isClosing])

/-- A call that goes on with its loop. -/
theorem CloseKeeps.advance {k : GridFrame} (hsound : ∀ l ∈ t.grid.levels, l.Sound)
    (hstatus : t.grid.status = s.grid.status) (hframe : pc.frame = some k)
    (hcells : k.loop.isClose = true → ∀ i, t.isFilledAt i = true → (i, i) ∈ k.rest)
    (hfilled : ∀ i, t.isFilledAt i = true → s.isFilledAt i = true ∨ opens i) :
    CloseKeeps s pc e (t.advance cfg id now k.loop k.rest) opens := by
  have hstep := loopStep_advance cfg id now hsound hcells
  generalize t.advance cfg id now k.loop k.rest = c at hstep ⊢
  cases hstep with
  | orders hloop hframe' hfits =>
      refine ⟨hsound, hfits, hfilled, .stays hstatus ?_⟩
      rw [GridPc.isClosing_of_frame hframe', GridPc.isClosing_of_frame hframe, hloop]
  | @ends pc'' now hframe' hnone hempty =>
      have hlevels : (t.setGrid (k.loop.finish now t.grid)).grid.levels = t.grid.levels :=
        levels_finish k.loop now t.grid
      have hclosing := GridPc.isClosing_of_frame_eq_none hframe'
      refine ⟨by simpa using hsound, GridPc.fits_of_frame hframe' hnone _, fun i hi => ?_, ?_⟩
      · rw [isFilledAt_congr (s := t) hlevels] at hi
        exact hfilled i hi
      · have hbefore := GridPc.isClosing_of_frame hframe
        cases hloop : k.loop with
        | tick price previous blocked =>
            rw [hloop] at hbefore
            exact .stays hstatus (hclosing.trans hbefore.symm)
        | close reason price force =>
            rw [hloop] at hbefore
            exact .ends (.inl hbefore) hclosing (hempty (by rw [hloop]; rfl))

theorem closeKeeps_tick (hsound : ∀ l ∈ s.grid.levels, l.Sound) (hpc : pc.isClosing = false)
    (blocked : Bool) (price : ℚ) :
    CloseKeeps s pc e (s.tick cfg id now blocked price) opens := by
  unfold GridShared.tick
  split
  · have hstep : LoopStep s (.tick price (s.grid.lastPrice.getD price) blocked)
        (s.advance cfg id now _ (tickCells s.grid)) :=
      loopStep_advance cfg id now hsound fun hclose => by cases hclose
    generalize s.advance cfg id now _ (tickCells s.grid) = c at hstep ⊢
    cases hstep with
    | orders hloop hframe hfits =>
        refine ⟨hsound, hfits, fun i hi => .inl hi, .stays rfl ?_⟩
        rw [GridPc.isClosing_of_frame hframe, hloop, hpc]
        rfl
    | ends hframe hnone =>
        exact ⟨by simpa using hsound, GridPc.fits_of_frame hframe hnone _,
          fun i hi => .inl hi,
          .stays rfl ((GridPc.isClosing_of_frame_eq_none hframe).trans hpc.symm)⟩
  · exact .of_grid_eq hsound rfl (GridPc.fits_of_frame rfl rfl s) hpc.symm

theorem closeKeeps_close (hsound : ∀ l ∈ s.grid.levels, l.Sound) (hpc : pc.isClosing = false)
    (reason : String) (price : ℚ) (force : Bool) :
    CloseKeeps s pc e (s.close cfg id now reason price force) opens := by
  unfold GridShared.close
  split
  next hactive =>
    have hstep : LoopStep (s.setGrid { s.grid with status := .closing })
        (.close reason price force) ((s.setGrid { s.grid with status := .closing }).advance
          cfg id now _ (closeCells s.grid)) :=
      loopStep_advance (s := s.setGrid { s.grid with status := .closing }) cfg id now hsound
        fun _ i hi => mem_closeCells (s := s) hi
    generalize GridShared.advance cfg id now _ _ (closeCells s.grid) = c at hstep ⊢
    cases hstep with
    | orders hloop hframe hfits =>
        refine ⟨hsound, hfits, fun i hi => .inl hi, .begins hactive rfl ?_⟩
        rw [GridPc.isClosing_of_frame hframe, hloop]
        rfl
    | ends hframe hnone hempty =>
        exact ⟨hsound, GridPc.fits_of_frame hframe hnone _, fun i hi => .inl hi,
          .ends (.inr hactive) (GridPc.isClosing_of_frame_eq_none hframe) (hempty rfl)⟩
  next => exact .of_grid_eq hsound rfl (GridPc.fits_of_frame rfl rfl s) hpc.symm

theorem closeKeeps_call (hsound : ∀ l ∈ s.grid.levels, l.Sound) (hpc : pc.isClosing = false)
    (job : GridJob) (blocked : Bool) :
    CloseKeeps s pc e (gridCall cfg job id now s blocked) opens := by
  cases job with
  | opened =>
      refine .of_grid_eq hsound rfl ?_ ?_
      · split
        · exact GridPc.fits_of_frame rfl rfl s
        · exact GridPc.fits_of_frame rfl rfl s
      · rw [hpc]
        split
        · rfl
        · rfl
  | tick price => exact closeKeeps_tick hsound hpc blocked price
  | close reason price force => exact closeKeeps_close hsound hpc reason price force
  | monitor price violated =>
      unfold gridCall
      dsimp only
      split
      · split
        · exact closeKeeps_close hsound hpc _ price true
        · exact closeKeeps_tick hsound hpc blocked price
      · exact .of_grid_eq hsound rfl (GridPc.fits_of_frame rfl rfl s) hpc.symm

/-- A call that gives a level up and goes on with its loop. -/
theorem closeKeeps_givesUp {f : LevelFill} {k : GridFrame}
    (hsound : ∀ l ∈ s.grid.levels, l.Sound) (hpc : pc.Fits s)
    (hleaves : pc.isClosing = true → ∀ f ∈ pc.givesUp e, s.isFilledAt f.place = false)
    (hframe : pc.frame = some k) (hfill : pc.fill = some f) (hgives : pc.givesUp e = some f) :
    CloseKeeps s pc e (s.advance cfg id now k.loop k.rest) opens := by
  refine .advance hsound rfl hframe (fun hclose i hi => ?_) fun i hi => .inl hi
  refine hpc.mem_rest hframe hclose hi fun f' hf' => ?_
  obtain rfl := Option.some.inj (hfill.symm.trans hf')
  rintro rfl
  rw [hleaves ((GridPc.isClosing_of_frame hframe).trans hclose) f hgives] at hi
  cases hi

/-- A call that books the fill of its order. -/
theorem closeKeeps_afterRecord {f : LevelFill} {k : GridFrame} {quantity : ℚ}
    {r : OrderResult} {filledAt : Timestamp} (hsound : ∀ l ∈ s.grid.levels, l.Sound)
    (hpc : pc.Fits s) (hquantity : 0 < quantity)
    (hcloses : pc.isClosing = true → ∀ x ∈ pc.books cfg e,
      s.held x.1.place - x.2 ≤ gridEpsilon)
    (hframe : pc.frame = some k) (hfill : pc.fill = some f)
    (hbooks : pc.books cfg e = some (f, quantity)) :
    CloseKeeps s pc e (s.afterRecord cfg id now f r quantity filledAt k) fun i =>
      ∃ x ∈ pc.books cfg e, x.1.opening = true ∧ x.1.place = i := by
  have hbooked : ∀ l ∈ (s.book f quantity r filledAt).grid.levels, l.Sound :=
    sound_book hsound hquantity
  have hfilled : ∀ i, (s.book f quantity r filledAt).isFilledAt i = true →
      s.isFilledAt i = true ∨ ∃ x ∈ pc.books cfg e, x.1.opening = true ∧ x.1.place = i :=
    isFilledAt_book_of_books hsound hquantity hbooks
  have hrest : k.loop.isClose = true → ∀ i,
      (s.book f quantity r filledAt).isFilledAt i = true → (i, i) ∈ k.rest :=
    fun hclose i hi => hpc.mem_rest_book hsound hquantity hframe hfill hclose
      (hcloses ((GridPc.isClosing_of_frame hframe).trans hclose) (f, quantity) hbooks) hi
  unfold GridShared.afterRecord
  split
  · refine ⟨hbooked, ⟨by simp [GridPc.filled], by simp [GridPc.fill], ?_⟩, hfilled,
      .stays status_book (GridPc.isClosing_of_frame hframe).symm⟩
    rintro i hi ⟨hclose, -, hk⟩
    exact hk k rfl (hrest hclose i hi)
  · exact .advance hbooked status_book hframe hrest hfilled

theorem closeKeeps_segment {job : GridJob} (hseg : gridSegment cfg job s pc w = some (t, pc'))
    (hsound : ∀ l ∈ s.grid.levels, l.Sound) (hpc : pc.Fits s)
    (hcloses : pc.isClosing = true → ∀ x ∈ pc.books cfg w.event,
      s.held x.1.place - x.2 ≤ gridEpsilon)
    (hleaves : pc.isClosing = true → ∀ f ∈ pc.givesUp w.event,
      s.isFilledAt f.place = false) :
    CloseKeeps s pc w.event (t, pc') fun i =>
      ∃ x ∈ pc.books cfg w.event, x.1.opening = true ∧ x.1.place = i := by
  have hstep := gridStep_of_segment hseg
  generalize w.event = e at hstep hcloses hleaves ⊢
  cases hstep with
  | starts job blocked => exact closeKeeps_call hsound rfl job blocked
  | admits f o k =>
      exact .of_grid_eq hsound rfl ⟨by simp [GridPc.filled], hpc.close, hpc.passed⟩ rfl
  | raises f o k =>
      exact ⟨hsound, GridPc.fits_of_frame rfl rfl s, fun i hi => .inl hi, .raises rfl rfl⟩
  | leaves hgives hframe hfill =>
      exact closeKeeps_givesUp hsound hpc hleaves hframe hfill hgives
  | fills f o k r quantity now hrepository hquantity =>
      refine .of_grid_eq hsound rfl ⟨fun q hq => ?_, hpc.close, hpc.passed⟩ rfl
      obtain rfl := Option.some.inj hq
      exact acceptedFill_pos hquantity
  | records => exact .of_grid_eq hsound rfl ⟨hpc.positive, hpc.close, hpc.passed⟩ rfl
  | forgets => exact .of_grid_eq hsound rfl ⟨hpc.positive, hpc.close, hpc.passed⟩ rfl
  | books f o r quantity filledAt k =>
      exact closeKeeps_afterRecord hsound hpc (hpc.positive quantity rfl) hcloses rfl rfl rfl
  | booksUnrecorded f o k r quantity filledAt hrepository hquantity =>
      exact closeKeeps_afterRecord hsound hpc (acceptedFill_pos hquantity) hcloses rfl rfl
        (by simp [GridPc.books, hrepository, hquantity])
  | reads n => exact .of_frame_eq hsound hpc rfl (by simp) rfl rfl
  | stores row n => exact .of_frame_eq hsound hpc rfl (by simp) rfl rfl
  | unread n => exact .of_frame_eq hsound hpc rfl (by simp) rfl rfl
  | unstored row n => exact .of_frame_eq hsound hpc rfl (by simp) rfl rfl
  | resumes f k =>
      have hmarked : ∀ l ∈ (s.setGrid (updateMarkToMarket s.grid f.price)).grid.levels,
          l.Sound := hsound
      exact .advance hmarked rfl rfl
        (fun hclose i hi => hpc.mem_rest rfl hclose hi fun f' hf' => by cases hf')
        fun i hi => .inl hi
  | returns => exact .of_grid_eq hsound rfl (GridPc.fits_of_frame rfl rfl s) rfl

/-- What a segment does to the row and to the ledger: a row that is written was read from
the grid before, and a fill that is written is that of the call. -/
structure RowStep (cfg : GridConfig) (s : GridShared) (pc : GridPc) (e : GridEvent)
    (t : GridShared) (pc' : GridPc) : Prop where
  row : ∀ row ∈ t.row, row ∈ s.row ∨ ∃ n, pc = .writing row n
  writing : ∀ row n, pc' = .writing row n → row = s.grid.stored cfg
  ledger : ∀ fill ∈ t.ledger, fill ∈ s.ledger ∨ fill ∈ pc.recordedFill cfg s e

theorem RowStep.of_sameStores (hsame : s.SameStores t) (hpc : pc'.Idles) :
    RowStep cfg s pc e t pc' where
  row := fun row hrow => .inl (by rwa [hsame.row] at hrow)
  writing := fun row n htask => absurd htask (hpc.writing row n)
  ledger := fun fill hfill => .inl (by rwa [hsame.ledger] at hfill)

theorem RowStep.advance (hrow : t.row = s.row) (hledger : t.ledger = s.ledger)
    (loop : GridLoop) (cells : List (ℕ × ℕ)) :
    RowStep cfg s pc e (t.advance cfg id now loop cells).1
      (t.advance cfg id now loop cells).2 := by
  have hsame := sameStores_advance cfg id now t loop cells
  refine ⟨fun row hmem => .inl ?_, fun row n htask => ?_, fun fill hfill => .inl ?_⟩
  · rwa [hsame.row, hrow] at hmem
  · exact absurd htask ((idles_advance cfg id now t loop cells).writing row n)
  · rwa [hsame.ledger, hledger] at hfill

theorem RowStep.afterPersist {f : LevelFill} {k : GridFrame} (hrow : t.row = s.row)
    (hledger : t.ledger = s.ledger) :
    RowStep cfg s pc e (t.afterPersist cfg id now f k).1 (t.afterPersist cfg id now f k).2 :=
  .advance (t := t.setGrid (updateMarkToMarket t.grid f.price)) hrow hledger _ _

/-- A call up to its first suspension writes nothing. -/
theorem StoreStep.rowStep (h : StoreStep cfg s pc e t pc') (hpc : pc = .idle) :
    RowStep cfg s pc e t pc' := by
  subst hpc
  cases h with
  | goesOn hsame hbetween hidles => exact .of_sameStores hsame hidles

theorem row_book (s : GridShared) (f : LevelFill) (quantity : ℚ) (r : OrderResult)
    (now : Timestamp) :
    (s.book f quantity r now).row = s.row ∧
      (s.book f quantity r now).ledger = s.ledger := by
  unfold GridShared.book
  split <;> exact ⟨rfl, rfl⟩

theorem RowStep.afterRecord {f : LevelFill} {k : GridFrame} {quantity : ℚ} {r : OrderResult}
    {filledAt : Timestamp} :
    RowStep cfg s pc e (s.afterRecord cfg id now f r quantity filledAt k).1
      (s.afterRecord cfg id now f r quantity filledAt k).2 := by
  obtain ⟨hrow, hledger⟩ := row_book s f quantity r filledAt
  unfold GridShared.afterRecord
  split
  · refine ⟨fun row hmem => .inl ?_, fun _ _ htask => ?_, fun fill hfill => .inl ?_⟩
    · rwa [hrow] at hmem
    · cases htask
    · rwa [hledger] at hfill
  · exact .afterPersist hrow hledger

theorem rowStep_of_segment {job : GridJob}
    (hseg : gridSegment cfg job s pc w = some (t, pc')) :
    RowStep cfg s pc w.event t pc' := by
  have hstep := gridStep_of_segment hseg
  generalize w.event = e at hstep ⊢
  have hidles : ∀ {pc' : GridPc}, (∀ row n, pc' ≠ .writing row n) →
      RowStep cfg s pc e s pc' := fun hpc =>
    ⟨fun _ hrow => .inl hrow, fun row n htask => absurd htask (hpc row n),
      fun _ hfill => .inl hfill⟩
  cases hstep with
  | starts job blocked =>
      exact (storeStep_call rfl job blocked).rowStep rfl
  | leaves => exact .advance rfl rfl _ _
  | records f o r quantity now k =>
      refine ⟨fun _ hrow => .inl hrow, fun _ _ htask => ?_, fun fill hfill => ?_⟩
      · cases htask
      · exact (List.mem_append.1 hfill).imp_right Option.mem_toList.1
  | books => exact .afterRecord
  | booksUnrecorded => exact .afterRecord
  | reads n =>
      refine ⟨fun _ hrow => .inl hrow, fun row n' htask => ?_, fun _ hfill => .inl hfill⟩
      cases htask
      rfl
  | stores row n =>
      refine ⟨fun row' hrow => .inr ⟨n, ?_⟩, fun _ _ htask => ?_, fun _ hfill => .inl hfill⟩
      · obtain rfl := Option.some.inj hrow
        rfl
      · cases htask
  | resumes => exact .afterPersist rfl rfl
  | admits => exact hidles fun _ _ h => nomatch h
  | raises => exact hidles fun _ _ h => nomatch h
  | fills => exact hidles fun _ _ h => nomatch h
  | forgets => exact hidles fun _ _ h => nomatch h
  | unread => exact hidles fun _ _ h => nomatch h
  | unstored => exact hidles fun _ _ h => nomatch h
  | returns => exact hidles fun _ _ h => nomatch h

end Segments

/-! ### Runs -/

/-- A grid that is not restored any more has no filled level. -/
def GridState.Emptied (g : GridState) : Prop :=
  g.status.isOpen = false → ∀ l ∈ g.levels, l.isFilled = false

/-- A grid that is not active has no filled level, unless a `close_grid` call is still to
come to it, and neither has a row that is not restored. -/
structure CloseSound {ι : Type*} (P : Pool ι GridShared GridPc) : Prop where
  sound : ∀ l ∈ P.shared.grid.levels, l.Sound
  fits : ∀ i, (P.task i).Fits P.shared
  closing : ∀ i, (P.task i).isClosing = true → P.shared.grid.status = .closing
  alone : ∀ i j, (P.task i).isClosing = true → (P.task j).isClosing = true → i = j
  rests : P.shared.grid.isActive = true ∨ (∃ i, (P.task i).isClosing = true) ∨
    ∀ l ∈ P.shared.grid.levels, l.isFilled = false
  row : ∀ row ∈ P.shared.row, row.Emptied
  writing : ∀ i row n, P.task i = .writing row n → row.Emptied
  ledger : ∀ fill ∈ P.shared.ledger, fill.isOpening = true → 0 < fill.quantity

section Replay

variable {levels : List GridLevelState} {fills : List LedgerFill} {fill : LedgerFill}

theorem GridLevelState.Sound.replayLevel {l : GridLevelState} (h : l.Sound)
    (hfill : fill.isOpening = true → 0 < fill.quantity) : (replayLevel fill l).Sound := by
  cases hopening : fill.isOpening with
  | true =>
      have hquantity := hfill hopening
      have hnonneg := h.nonneg
      simp only [Sgr.replayLevel, hopening, GridLevelState.Sound, if_true]
      linarith
  | false =>
      have hclosed := GridLevelState.Sound.closed l fill.quantity
      simpa [Sgr.replayLevel, hopening, GridLevelState.Sound] using hclosed

theorem sound_replay (hlevels : ∀ l ∈ levels, l.Sound)
    (hfills : ∀ fill ∈ fills, fill.isOpening = true → 0 < fill.quantity) :
    ∀ l ∈ replay levels fills, l.Sound := by
  induction fills generalizing levels with
  | nil => exact hlevels
  | cons fill fills ih =>
      rw [replay, List.foldl_cons]
      refine ih ?_ fun x hx => hfills x (List.mem_cons_of_mem fill hx)
      split
      next l hl =>
        intro l' hl'
        rcases List.mem_or_eq_of_mem_set hl' with hl' | rfl
        · exact hlevels l' hl'
        · exact (hlevels l (List.mem_of_getElem? hl)).replayLevel
            (hfills fill List.mem_cons_self)
      next => exact hlevels

theorem sound_freshLevels (prices : List ℚ) : ∀ l ∈ freshLevels prices, l.Sound := by
  intro l hl
  obtain ⟨p, -, rfl⟩ := List.mem_map.1 hl
  simp [GridLevelState.Sound]

end Replay

section Runs

variable {ι : Type*} [DecidableEq ι] {cfg : GridConfig} {prices : List ℚ}
  {P : Pool ι GridShared GridPc} {i : ι} {e : GridEvent} {t : GridShared} {pc' : GridPc}

theorem not_isActive_of_closing {g : GridState} (h : g.status = .closing) :
    ¬ g.isActive = true := by
  simp [GridState.isActive, h]

omit [DecidableEq ι] in
theorem CloseSound.emptied (h : CloseSound P) : (P.shared.grid.stored cfg).Emptied := by
  intro hstatus
  have hopen : P.shared.grid.status.isOpen = false := hstatus
  rcases h.rests with hactive | ⟨i, hi⟩ | hempty
  · simp only [GridState.isActive, Bool.or_eq_true, decide_eq_true_eq] at hactive
    rcases hactive with heq | heq
    · rw [heq] at hopen
      cases hopen
    · rw [heq] at hopen
      cases hopen
  · rw [h.closing i hi] at hopen
    cases hopen
  · exact hempty

/-- Unless a segment ends a close, a call that was in a loop of `close_grid` is still in
one. -/
theorem exists_isClosing_resume (hpc : (P.task i).isClosing = true → pc'.isClosing = true)
    (h : ∃ j, (P.task j).isClosing = true) :
    ∃ j, ((P.resume i t pc').task j).isClosing = true := by
  obtain ⟨j, hj⟩ := h
  refine ⟨j, ?_⟩
  rw [Pool.resume_task]
  split
  next hji =>
    subst hji
    exact hpc hj
  next => exact hj

theorem CloseSound.rests_resume (h : CloseSound P) (hok : ClosesThrough cfg P i e)
    (hkeeps : CloseKeeps P.shared (P.task i) e (t, pc') fun place =>
      ∃ x ∈ (P.task i).books cfg e, x.1.opening = true ∧ x.1.place = place) :
    t.grid.isActive = true ∨ (∃ j, ((P.resume i t pc').task j).isClosing = true) ∨
      ∀ l ∈ t.grid.levels, l.isFilled = false := by
  obtain ⟨-, -, hfilled, hstatus⟩ := hkeeps
  cases hstatus with
  | stays hstatus hpc =>
      have hgoes : P.shared.grid.isActive = true ∨ (∃ j, (P.task j).isClosing = true) →
          t.grid.isActive = true ∨
            ∃ j, ((P.resume i t pc').task j).isClosing = true := by
        rintro (hactive | hclosing)
        · left
          simpa only [GridState.isActive, hstatus] using hactive
        · exact .inr (exists_isClosing_resume (fun hi => hpc.trans hi) hclosing)
      rw [← or_assoc]
      rcases or_assoc.2 h.rests with hbefore | hempty
      · exact .inl (hgoes hbefore)
      · by_cases hall : ∀ l ∈ t.grid.levels, l.isFilled = false
        · exact .inr hall
        · -- the level that is filled now has been opened
          push Not at hall
          obtain ⟨l, hl, hne⟩ := hall
          obtain ⟨place, hplace⟩ := List.mem_iff_getElem?.1 hl
          have hat : t.isFilledAt place = true := by
            rw [GridShared.isFilledAt, hplace, Option.any_some]
            simpa using hne
          rcases hfilled place hat with hbefore | ⟨x, hx, hopening, -⟩
          · obtain ⟨l', hl', hfull⟩ := (Option.any_eq_true _ _).1 hbefore
            rw [hempty l' (List.mem_of_getElem? hl')] at hfull
            cases hfull
          · exact .inl (hgoes (hok.opening x hx hopening))
  | begins hactive hstatus hpc => exact .inr (.inl ⟨i, by rwa [Pool.resume_task_self]⟩)
  | ends hstart hpc hempty => exact .inr (.inr hempty)
  | raises hraises hpc =>
      cases hclosing : (P.task i).isClosing with
      | true => exact .inr (.inr (hok.raises hclosing hraises))
      | false =>
          refine h.rests.imp_right (Or.imp_left (exists_isClosing_resume fun hi => ?_))
          rw [hclosing] at hi
          cases hi

theorem CloseSound.closing_resume (h : CloseSound P) {opens : ℕ → Prop}
    (hkeeps : CloseKeeps P.shared (P.task i) e (t, pc') opens) (j : ι)
    (hj : ((P.resume i t pc').task j).isClosing = true) : t.grid.status = .closing := by
  have hstatus := hkeeps.status
  by_cases hji : j = i
  · subst hji
    rw [Pool.resume_task_self] at hj
    cases hstatus with
    | stays hstatus hpc => exact hstatus.trans (h.closing j (hpc.symm.trans hj))
    | begins hactive hstatus hpc => exact hstatus
    | ends hstart hpc =>
        rw [hpc] at hj
        cases hj
    | raises hraises hpc =>
        rw [hpc] at hj
        cases hj
  · rw [Pool.resume_task_of_ne P hji] at hj
    have hbefore := h.closing j hj
    cases hstatus with
    | stays hstatus => exact hstatus.trans hbefore
    | begins hactive hstatus => exact hstatus
    | ends hstart =>
        rcases hstart with hclosing | hactive
        · exact absurd (h.alone j i hj hclosing) hji
        · exact absurd hactive (not_isActive_of_closing hbefore)
    | raises => exact hbefore

theorem CloseSound.wake (h : CloseSound P) {job : ι → GridJob} {w : GridWake}
    {Q : Pool ι GridShared GridPc} (hok : ClosesThrough cfg P i w.event)
    (hnext : (gridMachine cfg job).next P (i, w) = some Q) : CloseSound Q := by
  obtain ⟨t, pc', hseg, rfl⟩ := Pool.machine_next_eq_some_iff.1 hnext
  have hkeeps := closeKeeps_segment hseg h.sound (h.fits i) hok.closes hok.leaves
  have hrows := rowStep_of_segment hseg
  refine ⟨hkeeps.sound, fits_resume h.fits hkeeps.fits hkeeps.filled hok.unpassed,
    h.closing_resume hkeeps, ?_, h.rests_resume hok hkeeps, ?_, ?_, ?_⟩
  · refine Pool.atMostOne_resume (φ := fun pc : GridPc => pc.isClosing = true) h.alone
      fun hclosing => ?_
    cases hkeeps.status with
    | stays hstatus hpc => exact .inl (hpc.symm.trans hclosing)
    | begins hactive =>
        exact .inr fun j hj => not_isActive_of_closing (h.closing j hj) hactive
    | ends hstart hpc =>
        rw [hpc] at hclosing
        cases hclosing
    | raises hraises hpc =>
        rw [hpc] at hclosing
        cases hclosing
  · intro row hrow
    rcases hrows.row row hrow with hrow | ⟨n, hpc⟩
    · exact h.row row hrow
    · exact h.writing i row n hpc
  · refine Pool.forall_task_resume
      (φ := fun _ (pc : GridPc) => ∀ row n, pc = .writing row n → row.Emptied)
      (fun j _ => h.writing j) fun row n hpc => ?_
    rw [hrows.writing row n hpc]
    exact h.emptied
  · intro fill hfill
    rcases hrows.ledger fill hfill with hfill | hfill
    · exact h.ledger fill hfill
    · exact hok.written fill hfill

omit [DecidableEq ι] in
/-- A restart takes the status from the row and the levels from the ledger. -/
theorem CloseSound.restart (h : CloseSound P) {statuses : Option (UUID → Option String)}
    {gate : Option LiveVerificationState} {g : GridState}
    (hok : ∀ row ∈ P.shared.row, row.isActive = true ∨
      ∀ l ∈ replay (freshLevels prices) (getFills P.shared.ledger), l.isFilled = false)
    (hrestore : restoreGrid cfg prices statuses P.shared = some g) :
    CloseSound ⟨{ P.shared with work := ⟨g, gate⟩ }, fun i => (P.task i).crash⟩ := by
  obtain ⟨row, hrow, rfl⟩ := exists_row_of_restoreGrid hrestore
  have hcrash : ∀ pc : GridPc, pc.crash.frame = none ∧ pc.crash.filled = none ∧
      ∀ row n, pc.crash ≠ .writing row n := by
    intro pc
    cases pc <;> exact ⟨rfl, rfl, fun _ _ hpc => nomatch hpc⟩
  have hclosing : ∀ i, ¬ (P.task i).crash.isClosing = true := by
    intro i hi
    rw [GridPc.isClosing_of_frame_eq_none (hcrash (P.task i)).1] at hi
    cases hi
  refine ⟨?_, fun i => ?_, fun i hi => absurd hi (hclosing i),
    fun i j hi => absurd hi (hclosing i), ?_, h.row, fun i row n hpc => ?_, h.ledger⟩
  · refine sound_replay (sound_freshLevels prices) fun fill hfill => h.ledger fill ?_
    exact (List.perm_insertionSort _ _).mem_iff.1 hfill
  · exact GridPc.fits_of_frame (hcrash (P.task i)).1 (hcrash (P.task i)).2.1 _
  · exact (hok row hrow).imp_right .inr
  · exact absurd hpc ((hcrash (P.task i)).2.2 row n)

omit [DecidableEq ι] in
theorem closeSound_start (plan : GridPlan) (gate : Option LiveVerificationState) :
    CloseSound (gridStart plan gate : Pool ι GridShared GridPc) where
  sound := sound_freshLevels plan.prices
  fits := fun _ => GridPc.fits_of_frame rfl rfl _
  closing := fun _ hi => nomatch hi
  alone := fun _ _ hi => nomatch hi
  rests := .inl rfl
  row := fun _ hrow => nomatch hrow
  writing := fun _ _ _ hpc => nomatch hpc
  ledger := fun _ hfill => nomatch hfill

omit [DecidableEq ι] in
theorem CloseSound.canBeClosed (h : CloseSound P) : CanBeClosed P where
  memory := fun hnone => by
    rw [GridWork.flattens_iff h.sound]
    refine h.rests.imp_right (Or.resolve_left · ?_)
    rintro ⟨i, hi⟩
    rw [hnone i] at hi
    cases hi
  stored := h.row

end Runs

/-! ### A process that dies while it closes a grid -/

/-- A grid with a level at 80 and a level at 90. -/
def GridPlan.btcTwice : GridPlan := { GridPlan.btc with prices := [80, 90, 100] }

/-- A tick that opens both levels, and a close. -/
def GridJob.btcTwice : Fin 2 → GridJob
  | 0 => .tick 79
  | 1 => .close "manual" 100 true

section Runs

variable {κ : Type} (i j : κ)

/-- The order of a call is filled, and the fill is written, booked and stored. -/
def filledAndStored : List (GridAction κ) :=
  [.wake i .fill, .wake i ⟨.served, 0, 0⟩, .wake i ⟨.resumed, 0, 0⟩,
    .wake i ⟨.served, 0, 0⟩, .wake i ⟨.served, 0, 0⟩]

/-- A call stores the grid at its end. -/
def storedAtEnd : List (GridAction κ) :=
  [.wake i ⟨.resumed, 0, 0⟩, .wake i ⟨.served, 0, 0⟩, .wake i ⟨.served, 0, 0⟩,
    .wake i ⟨.resumed, 0, 0⟩]

/-- The tick opens the levels. -/
def bothOpened : List (GridAction κ) :=
  .wake i (.call 1) :: filledAndStored i ++ .wake i ⟨.resumed, 0, 0⟩ ::
    filledAndStored i ++ storedAtEnd i

/-- The process dies before the close and not after its first level. -/
def closedAfterRestart : List (GridAction κ) :=
  bothOpened i ++ .restart none none :: .wake j (.call 2) :: filledAndStored j ++
    .wake j ⟨.resumed, 0, 0⟩ :: filledAndStored j ++ storedAtEnd j

/-- The process dies when the close has stored the grid for the first time. -/
def diedClosing : List (GridAction κ) :=
  bothOpened i ++ .wake j (.call 2) :: filledAndStored j ++ [.restart none none]

end Runs

end Sgr
