import Mathlib.Data.Fintype.Basic
import Mathlib.Tactic.Linarith
import Sgr.Grid.Tasks

/-!
# What the levels of a grid hold

Ticks and closes of one grid book their fills on the levels that they find when their
orders are filled, and those need not be the levels that the orders were made for. Two
calls can close the same level, an opening fill can come after the close of the grid, and
a close gives up a level whose order is not filled. Where none of this happens, no level
is closed by more than it was opened, and a `CLOSED` grid has no filled level.
-/

open Concurrency

namespace Sgr

namespace GridShared

/-- What was booked for the level at a place, by opening or by closing fills. -/
def total (s : GridShared) (i : ℕ) (opening : Bool) : ℚ :=
  ((s.booked.filter fun b => b.place = i ∧ b.opening = opening).map
    LevelBooking.quantity).sum

/-- What the level at a place holds. -/
def held (s : GridShared) (i : ℕ) : ℚ := (s.grid.levels[i]?).elim 0 GridLevelState.quantity

/-- The level at a place is marked filled. -/
def isFilledAt (s : GridShared) (i : ℕ) : Bool :=
  (s.grid.levels[i]?).any GridLevelState.isFilled

end GridShared

/-- No level is closed by more than it was opened, and a `CLOSED` grid has no filled
level. -/
structure LevelsMatch (s : GridShared) : Prop where
  totals : ∀ i, s.total i false ≤ s.total i true
  closed : s.grid.status = .closed → ∀ l ∈ s.grid.levels, l.isFilled = false

/-! ### What a call is about to do -/

namespace GridPc

/-- The call is in the loop of `close_grid`. -/
def isClosing (pc : GridPc) : Bool := pc.frame.any fun k => k.loop.isClose

/-- The call is in the loop of `close_grid` and will not come to the level at `i`. -/
def HasPassed (pc : GridPc) (i : ℕ) : Prop :=
  pc.isClosing = true ∧ (∀ f ∈ pc.fill, f.place ≠ i) ∧ ∀ k ∈ pc.frame, (i, i) ∉ k.rest

instance (pc : GridPc) (i : ℕ) : Decidable (pc.HasPassed i) :=
  inferInstanceAs (Decidable (_ ∧ _ ∧ _))

end GridPc

section Condition

variable (cfg : GridConfig)

/-- A closing fill is booked only on a level that holds as much, and an opening fill only
before the grid is `CLOSED`. When `close_grid` goes on from a level, nothing of the level
is left. -/
structure FillAsHeld (s : GridShared) (pc : GridPc) (e : GridEvent) : Prop where
  closing : ∀ x ∈ pc.books cfg e, x.1.opening = false → x.2 ≤ s.held x.1.place
  opening : ∀ x ∈ pc.books cfg e, x.1.opening = true → s.grid.status ≠ .closed
  closes : pc.isClosing = true → ∀ x ∈ pc.books cfg e,
    s.held x.1.place - x.2 ≤ gridEpsilon
  leaves : pc.isClosing = true → ∀ f ∈ pc.givesUp e, s.held f.place = 0

/-- Every fill is booked as the levels hold it, and an opening fill only before a close of
the grid has passed its level. -/
structure FillsAsHeld {ι : Type*} (P : Pool ι GridShared GridPc) (a : ι × GridWake) :
    Prop where
  fill : FillAsHeld cfg P.shared (P.task a.1) a.2.event
  unpassed : ∀ x ∈ (P.task a.1).books cfg a.2.event, x.1.opening = true →
    ∀ j, ¬ (P.task j).HasPassed x.1.place

instance (s : GridShared) (pc : GridPc) (e : GridEvent) : Decidable (FillAsHeld cfg s pc e) :=
  decidable_of_iff
    ((∀ x ∈ pc.books cfg e, x.1.opening = false → x.2 ≤ s.held x.1.place) ∧
      (∀ x ∈ pc.books cfg e, x.1.opening = true → s.grid.status ≠ .closed) ∧
      (pc.isClosing = true → ∀ x ∈ pc.books cfg e,
        s.held x.1.place - x.2 ≤ gridEpsilon) ∧
      (pc.isClosing = true → ∀ f ∈ pc.givesUp e, s.held f.place = 0))
    ⟨fun h => ⟨h.1, h.2.1, h.2.2.1, h.2.2.2⟩, fun h => ⟨h.1, h.2, h.3, h.4⟩⟩

instance {ι : Type*} [Fintype ι] (P : Pool ι GridShared GridPc) (a : ι × GridWake) :
    Decidable (FillsAsHeld cfg P a) :=
  decidable_of_iff
    (FillAsHeld cfg P.shared (P.task a.1) a.2.event ∧
      ∀ x ∈ (P.task a.1).books cfg a.2.event, x.1.opening = true →
        ∀ j, ¬ (P.task j).HasPassed x.1.place)
    ⟨fun h => ⟨h.1, h.2⟩, fun h => ⟨h.1, h.2⟩⟩

end Condition

/-! ### The invariant -/

/-- A level is filled exactly when it holds something. -/
def GridLevelState.Sound (l : GridLevelState) : Prop :=
  if l.isFilled then 0 < l.quantity else l.quantity = 0

/-- Every level holds at most what its bookings leave of it. -/
structure LevelsHeld (s : GridShared) : Prop where
  sound : ∀ l ∈ s.grid.levels, l.Sound
  totals : ∀ i, s.total i false + s.held i ≤ s.total i true
  closed : s.grid.status = .closed → ∀ l ∈ s.grid.levels, l.isFilled = false

/-- What a call has still to do suits the grid: it comes to every filled level when it is
closing. -/
structure GridPc.Fits (pc : GridPc) (s : GridShared) : Prop where
  positive : ∀ quantity ∈ pc.filled, 0 < quantity
  close : pc.isClosing = true → ∀ f ∈ pc.fill, f.opening = false
  passed : ∀ i, s.isFilledAt i = true → ¬ pc.HasPassed i

theorem GridLevelState.Sound.nonneg {l : GridLevelState} (h : l.Sound) : 0 ≤ l.quantity := by
  unfold GridLevelState.Sound at h
  split at h
  · exact h.le
  · exact h.ge

theorem LevelsHeld.held_nonneg {s : GridShared} (h : LevelsHeld s) (i : ℕ) :
    0 ≤ s.held i := by
  unfold GridShared.held
  cases hl : s.grid.levels[i]? with
  | none => rfl
  | some l => exact (h.sound l (List.mem_of_getElem? hl)).nonneg

theorem LevelsHeld.levelsMatch {s : GridShared} (h : LevelsHeld s) : LevelsMatch s where
  totals := fun i => by
    have htotal := h.totals i
    have hheld := h.held_nonneg i
    linarith
  closed := h.closed

/-- The invariant is about the levels, the bookings and the status. -/
theorem LevelsHeld.congr {s t : GridShared} (h : LevelsHeld s)
    (hlevels : t.grid.levels = s.grid.levels) (hbooked : t.booked = s.booked)
    (hclosed : t.grid.status = .closed → ∀ l ∈ s.grid.levels, l.isFilled = false) :
    LevelsHeld t where
  sound := by
    rw [hlevels]
    exact h.sound
  totals := fun i => by
    have htotal := h.totals i
    unfold GridShared.total GridShared.held at htotal ⊢
    rw [hlevels, hbooked]
    exact htotal
  closed := by
    rw [hlevels]
    exact hclosed

theorem isFilledAt_congr {s t : GridShared} (hlevels : t.grid.levels = s.grid.levels) (i : ℕ) :
    t.isFilledAt i = s.isFilledAt i := by
  unfold GridShared.isFilledAt
  rw [hlevels]

theorem GridPc.Fits.congr {pc : GridPc} {s t : GridShared} (h : pc.Fits s)
    (hfilled : ∀ i, t.isFilledAt i = true → ¬ pc.HasPassed i) : pc.Fits t :=
  ⟨h.positive, h.close, hfilled⟩

/-- A call without a loop to go on with suits every grid. -/
theorem GridPc.fits_of_frame {pc : GridPc} (hframe : pc.frame = none)
    (hfilled : pc.filled = none) (s : GridShared) : pc.Fits s where
  positive := by simp [hfilled]
  close := by simp [isClosing, hframe]
  passed := fun i _ h => by simp [HasPassed, isClosing, hframe] at h

/-- A call that has nothing to book suits the grid when it has the same loop before it. -/
theorem GridPc.Fits.of_frame_eq {pc pc' : GridPc} {s : GridShared} (h : pc.Fits s)
    (hframe : pc'.frame = pc.frame) (hfill : pc'.fill = pc.fill)
    (hfilled : pc'.filled = none) : pc'.Fits s where
  positive := by simp [hfilled]
  close := by
    rw [GridPc.isClosing, hframe, hfill]
    exact h.close
  passed := fun i hi hp => by
    rw [GridPc.HasPassed, GridPc.isClosing, hframe, hfill] at hp
    exact h.passed i hi hp

/-- A call that orders for a level in a loop. -/
theorem GridPc.Fits.of_fill {pc : GridPc} {f : LevelFill} {k : GridFrame} {s : GridShared}
    (hfill : pc.fill = some f) (hframe : pc.frame = some k) (hfilled : pc.filled = none)
    (hopening : k.loop.isClose = true → f.opening = false)
    (hpassed : ∀ i, s.isFilledAt i = true → k.loop.isClose = true → f.place ≠ i →
      (i, i) ∈ k.rest) : pc.Fits s where
  positive := by simp [hfilled]
  close := by simpa [GridPc.isClosing, hframe, hfill] using hopening
  passed := by
    rintro i hi ⟨hclose, hplace, hrest⟩
    rw [GridPc.isClosing, hframe, Option.any_some] at hclose
    exact hrest k hframe (hpassed i hi hclose (hplace f hfill))

/-! ### The loops -/

section Loops

variable {cfg : GridConfig} {id : UUID} {now : Timestamp} {s : GridShared}

@[simp] theorem grid_setGrid (s : GridShared) (g : GridState) : (s.setGrid g).grid = g := rfl

@[simp] theorem booked_setGrid (s : GridShared) (g : GridState) :
    (s.setGrid g).booked = s.booked := rfl

@[simp] theorem levels_updateMarkToMarket (g : GridState) (price : ℚ) :
    (updateMarkToMarket g price).levels = g.levels := rfl

@[simp] theorem status_updateMarkToMarket (g : GridState) (price : ℚ) :
    (updateMarkToMarket g price).status = g.status := rfl

@[simp] theorem levels_finish (loop : GridLoop) (now : Timestamp) (g : GridState) :
    (loop.finish now g).levels = g.levels := by
  cases loop <;> rfl

/-- A loop of `close_grid` asks for an order for each filled level that it comes to. -/
theorem GridLoop.fill_of_isClose {loop : GridLoop} (hclose : loop.isClose = true)
    {g : GridState} {i : ℕ} {l : GridLevelState} (hl : g.levels[i]? = some l)
    (hfilled : l.isFilled = true) (hsound : l.Sound) (id : UUID) :
    ∃ f o, loop.fill g (i, i) = some f ∧ f.order g id = some o := by
  cases loop with
  | tick => cases hclose
  | close reason price force =>
      have hpos : 0 < l.quantity := by simpa [GridLevelState.Sound, hfilled] using hsound
      refine ⟨⟨i, price, false, closeFillType force⟩, ?_⟩
      simp [GridLoop.fill, LevelFill.order, hl, hfilled, levelOrder, fillQuantity, hpos]

/-- A loop leaves the levels and the bookings alone up to its next suspension. -/
theorem levels_advance (cfg : GridConfig) (id : UUID) (now : Timestamp) (s : GridShared)
    (loop : GridLoop) (cells : List (ℕ × ℕ)) :
    (s.advance cfg id now loop cells).1.grid.levels = s.grid.levels := by
  induction cells with
  | nil => simp [GridShared.advance]
  | cons cell rest ih =>
      rw [GridShared.advance]
      split
      · exact ih
      · rfl

/-- What a loop does up to its next suspension: it comes to an order for a level, or to its
end. A loop of `close_grid` that has all filled levels before it goes on to suit the grid,
and comes to its end only when no level is filled. -/
inductive LoopStep (s : GridShared) (loop : GridLoop) : GridShared × GridPc → Prop
  | orders {pc : GridPc} {k : GridFrame} (hloop : k.loop = loop)
      (hframe : pc.frame = some k) (hfits : pc.Fits s) : LoopStep s loop (s, pc)
  | ends {pc : GridPc} {now : Timestamp} (hframe : pc.frame = none)
      (hfilled : pc.filled = none)
      (hempty : loop.isClose = true → ∀ l ∈ s.grid.levels, l.isFilled = false) :
      LoopStep s loop (s.setGrid (loop.finish now s.grid), pc)

theorem loopStep_advance (cfg : GridConfig) (id : UUID) (now : Timestamp)
    (hsound : ∀ l ∈ s.grid.levels, l.Sound) {loop : GridLoop} {cells : List (ℕ × ℕ)}
    (hcells : loop.isClose = true → ∀ i, s.isFilledAt i = true → (i, i) ∈ cells) :
    LoopStep s loop (s.advance cfg id now loop cells) := by
  induction cells with
  | nil =>
      have hempty : loop.isClose = true → ∀ l ∈ s.grid.levels, l.isFilled = false := by
        intro hclose l hl
        obtain ⟨i, hi⟩ := List.mem_iff_getElem?.1 hl
        by_contra hfilled
        have hat : s.isFilledAt i = true := by
          simpa [GridShared.isFilledAt, hi] using hfilled
        exact List.not_mem_nil (hcells hclose i hat)
      rw [GridShared.advance]
      split
      · exact .ends rfl rfl hempty
      · exact .ends rfl rfl hempty
  | cons cell rest ih =>
      rw [GridShared.advance]
      split
      next hnone =>
        apply ih
        intro hclose i hi
        rcases List.mem_cons.1 (hcells hclose i hi) with rfl | hmem
        · obtain ⟨l, hl, hfilled⟩ := (Option.any_eq_true _ _).1 hi
          obtain ⟨f, o, hf, ho⟩ := GridLoop.fill_of_isClose hclose hl hfilled
            (hsound l (List.mem_of_getElem? hl)) id
          simp [hf, ho] at hnone
        · exact hmem
      next f o hsome =>
        obtain ⟨f, hf, ho⟩ := Option.bind_eq_some_iff.1 hsome
        obtain ⟨o, ho, hpair⟩ := Option.map_eq_some_iff.1 ho
        cases hpair
        obtain ⟨hplace, hopening⟩ := GridLoop.fill_eq_some hf
        have hpassed : ∀ i, s.isFilledAt i = true → loop.isClose = true → f.place ≠ i →
            (i, i) ∈ rest := by
          intro i hi hclose hne
          rcases List.mem_cons.1 (hcells hclose i hi) with rfl | hmem
          · exact absurd hplace hne
          · exact hmem
        have hclosing : loop.isClose = true → f.opening = false :=
          fun hclose => hopening (GridLoop.opens_of_isClose hclose)
        split
        · exact .orders rfl rfl (.of_fill rfl rfl rfl hclosing hpassed)
        · exact .orders rfl rfl (.of_fill rfl rfl rfl hclosing hpassed)

/-- Up to its next suspension a loop keeps the invariant and suits the grid. -/
theorem held_advance (cfg : GridConfig) (id : UUID) (now : Timestamp) (h : LevelsHeld s)
    {loop : GridLoop} {cells : List (ℕ × ℕ)}
    (hcells : loop.isClose = true → ∀ i, s.isFilledAt i = true → (i, i) ∈ cells) :
    LevelsHeld (s.advance cfg id now loop cells).1 ∧
      (s.advance cfg id now loop cells).2.Fits (s.advance cfg id now loop cells).1 := by
  have hstep := loopStep_advance cfg id now h.sound hcells
  generalize s.advance cfg id now loop cells = c at hstep ⊢
  cases hstep with
  | orders hloop hframe hfits => exact ⟨h, hfits⟩
  | @ends pc now hframe hfilled hempty =>
      refine ⟨h.congr (levels_finish loop now s.grid) rfl fun hstatus => ?_,
        GridPc.fits_of_frame hframe hfilled _⟩
      cases loop with
      | tick => exact h.closed hstatus
      | close => exact hempty rfl

end Loops

/-! ### The bookings -/

section Bookings

variable {s : GridShared} {f : LevelFill} {quantity : ℚ} {r : OrderResult} {now : Timestamp}

theorem acceptedFill_pos (h : acceptedFill r = some quantity) : 0 < quantity := by
  unfold acceptedFill at h
  split at h
  · cases h
  · split at h
    · cases h
    next hpos =>
      cases h
      exact not_le.1 hpos

theorem GridLevelState.Sound.opened (l : GridLevelState) (hquantity : 0 < quantity) :
    (openedLevel l quantity).Sound := by
  simpa [openedLevel, GridLevelState.Sound] using hquantity

theorem gridEpsilon_pos : 0 < gridEpsilon := by
  norm_num [gridEpsilon]

theorem GridLevelState.Sound.closed (l : GridLevelState) (quantity : ℚ) :
    (closedLevel l quantity).Sound := by
  have heps := gridEpsilon_pos
  unfold closedLevel
  split
  · simp [GridLevelState.Sound]
  next h =>
    simp only [GridLevelState.Sound, if_true]
    linarith

/-- What a closing fill leaves of a level that holds as much. -/
theorem quantity_closedLevel_le {l : GridLevelState} (h : quantity ≤ l.quantity) :
    (closedLevel l quantity).quantity + quantity ≤ l.quantity := by
  unfold closedLevel
  split
  · simpa using h
  · simp

/-- What a booking does to the levels and to the log. -/
theorem book_eq {l : GridLevelState} (hl : s.grid.levels[f.place]? = some l) (quantity : ℚ)
    (r : OrderResult) (now : Timestamp) :
    ∃ l', (s.book f quantity r now).grid.levels = s.grid.levels.set f.place
        (if f.opening then openedLevel l' quantity else closedLevel l' quantity) ∧
      l'.quantity = l.quantity ∧
      (s.book f quantity r now).booked = ⟨f.place, f.opening, quantity⟩ :: s.booked ∧
      (s.book f quantity r now).grid.status = s.grid.status := by
  refine ⟨{ l with lastOrderId := some r.exchangeOrderId, lastFilledAt := some now }, ?_,
    rfl, ?_, ?_⟩
  · simp only [GridShared.book, hl]
    cases f.opening <;> rfl
  · simp only [GridShared.book, hl]
  · simp only [GridShared.book, hl]
    cases f.opening <;> rfl

theorem status_book : (s.book f quantity r now).grid.status = s.grid.status := by
  unfold GridShared.book
  split
  · rfl
  · cases f.opening <;> rfl

theorem book_of_none (h : s.grid.levels[f.place]? = none) :
    s.book f quantity r now = s := by
  simp only [GridShared.book, h]

theorem total_cons {t : GridShared} {b : LevelBooking} (hbooked : t.booked = b :: s.booked) (i : ℕ)
    (opening : Bool) :
    t.total i opening =
      s.total i opening + if b.place = i ∧ b.opening = opening then b.quantity else 0 := by
  unfold GridShared.total
  rw [hbooked, List.filter_cons]
  by_cases h : b.place = i ∧ b.opening = opening
  · simp [h, add_comm]
  · simp [h]

theorem held_of_getElem? {i : ℕ} {l : GridLevelState} (hl : s.grid.levels[i]? = some l) :
    s.held i = l.quantity := by
  rw [GridShared.held, hl, Option.elim_some]

/-- A fill that is booked leaves the levels sound. -/
theorem sound_book (hsound : ∀ l ∈ s.grid.levels, l.Sound) (hquantity : 0 < quantity) :
    ∀ l ∈ (s.book f quantity r now).grid.levels, l.Sound := by
  cases hl : s.grid.levels[f.place]? with
  | none => rwa [book_of_none hl]
  | some l =>
      obtain ⟨l', hlevels, -, -, -⟩ := book_eq hl quantity r now
      intro m hm
      rw [hlevels] at hm
      rcases List.mem_or_eq_of_mem_set hm with hm | rfl
      · exact hsound m hm
      · split
        · exact .opened l' hquantity
        · exact .closed l' quantity

/-- A fill that is booked closes no level by more than it was opened. -/
theorem LevelsHeld.book (h : LevelsHeld s) (hquantity : 0 < quantity)
    (hclosing : f.opening = false → quantity ≤ s.held f.place)
    (hopening : f.opening = true → s.grid.status ≠ .closed) :
    LevelsHeld (s.book f quantity r now) := by
  cases hl : s.grid.levels[f.place]? with
  | none => rwa [book_of_none hl]
  | some l =>
      obtain ⟨l', hlevels, hl', hbooked, hstatus⟩ :=
        book_eq hl quantity r now
      obtain ⟨hlt, -⟩ := List.getElem?_eq_some_iff.1 hl
      have hheld := held_of_getElem? hl
      refine ⟨sound_book h.sound hquantity, fun i => ?_, fun hclosed m hm => ?_⟩
      · have htotal := h.totals i
        have hnonneg := h.held_nonneg i
        rw [total_cons hbooked, total_cons hbooked]
        by_cases hi : i = f.place
        · subst hi
          have hself : (s.book f quantity r now).held f.place =
              (if f.opening then openedLevel l' quantity
                else closedLevel l' quantity).quantity :=
            held_of_getElem? (by rw [hlevels, List.getElem?_set_self hlt])
          rw [hself]
          cases hdir : f.opening with
          | true =>
              simp only [openedLevel, if_true, true_and, reduceCtorEq, if_false, and_false]
              linarith
          | false =>
              have hle : quantity ≤ l'.quantity := by
                rw [hl', ← hheld]
                exact hclosing hdir
              have hleft := quantity_closedLevel_le hle
              simp only [Bool.false_eq_true, if_false, true_and, if_true]
              rw [hl', ← hheld] at hleft
              linarith
        · have hother : (s.book f quantity r now).held i = s.held i := by
            rw [GridShared.held, hlevels, List.getElem?_set_ne (Ne.symm hi), GridShared.held]
          rw [hother, if_neg fun hp => hi hp.1.symm, if_neg fun hp => hi hp.1.symm]
          linarith
      · rw [hstatus] at hclosed
        rw [hlevels] at hm
        rcases List.mem_or_eq_of_mem_set hm with hm | rfl
        · exact h.closed hclosed m hm
        · cases hdir : f.opening with
          | true => exact absurd hclosed (hopening hdir)
          | false =>
              -- the level of a closed grid is empty before and after the fill
              have hfilled := h.closed hclosed l (List.mem_of_getElem? hl)
              have hempty : l.quantity = 0 := by
                simpa [GridLevelState.Sound, hfilled] using
                  h.sound l (List.mem_of_getElem? hl)
              have hle := hclosing hdir
              rw [hheld, hempty] at hle
              linarith

/-- A booking fills no level but the one that it opens. -/
theorem isFilledAt_book (hsound : ∀ l ∈ s.grid.levels, l.Sound) (hquantity : 0 < quantity)
    {i : ℕ} (hi : (s.book f quantity r now).isFilledAt i = true) :
    s.isFilledAt i = true ∨ f.opening = true ∧ i = f.place := by
  cases hl : s.grid.levels[f.place]? with
  | none =>
      rw [book_of_none hl] at hi
      exact .inl hi
  | some l =>
      obtain ⟨l', hlevels, hl', -, -⟩ :=
        book_eq hl quantity r now
      rw [GridShared.isFilledAt, hlevels] at hi
      by_cases hne : i = f.place
      · subst hne
        cases hdir : f.opening with
        | true => exact .inr ⟨rfl, rfl⟩
        | false =>
            left
            rw [GridShared.isFilledAt, hl, Option.any_some]
            by_contra hfilled
            have hempty : l.quantity = 0 := by
              simpa [GridLevelState.Sound, hfilled] using
                hsound l (List.mem_of_getElem? hl)
            have heps := gridEpsilon_pos
            have hsmall : l'.quantity - quantity ≤ gridEpsilon := by
              rw [hl', hempty]
              linarith
            obtain ⟨hlt, -⟩ := List.getElem?_eq_some_iff.1 hl
            simp [hdir, List.getElem?_set_self hlt, closedLevel, hsmall] at hi
      · rw [List.getElem?_set_ne (Ne.symm hne)] at hi
        exact .inl hi

/-- A level is not filled after a closing fill of what it holds. -/
theorem not_isFilledAt_book (hclosing : f.opening = false)
    (hsmall : s.held f.place - quantity ≤ gridEpsilon) :
    ¬ (s.book f quantity r now).isFilledAt f.place = true := by
  cases hl : s.grid.levels[f.place]? with
  | none => simp [book_of_none hl, GridShared.isFilledAt, hl]
  | some l =>
      obtain ⟨l', hlevels, hl', -, -⟩ :=
        book_eq hl quantity r now
      obtain ⟨hlt, -⟩ := List.getElem?_eq_some_iff.1 hl
      rw [held_of_getElem? hl, ← hl'] at hsmall
      simp [GridShared.isFilledAt, hlevels, hclosing, List.getElem?_set_self hlt,
        closedLevel, hsmall]

end Bookings

/-! ### The calls -/

section Calls

variable {cfg : GridConfig} {id : UUID} {now : Timestamp} {s t : GridShared} {pc pc' : GridPc}
  {w : GridWake}

/-- What a segment keeps: the invariant, and that no level gets filled but one that the
call opens. -/
structure GridKeeps (s : GridShared) (c : GridShared × GridPc) (opens : ℕ → Prop) : Prop where
  held : LevelsHeld c.1
  fits : c.2.Fits c.1
  filled : ∀ i, c.1.isFilledAt i = true → s.isFilledAt i = true ∨ opens i

theorem GridKeeps.of_fits {opens : ℕ → Prop} (h : LevelsHeld s) (hpc : pc'.Fits s) :
    GridKeeps s (s, pc') opens :=
  ⟨h, hpc, fun _ hi => .inl hi⟩

/-- A segment that leaves the levels, the bookings and the status alone. -/
theorem GridKeeps.of_congr {opens : ℕ → Prop} (h : LevelsHeld s) (hpc : pc'.Fits s)
    (hgrid : t.grid = s.grid) (hbooked : t.booked = s.booked) : GridKeeps s (t, pc') opens := by
  have hlevels : t.grid.levels = s.grid.levels := by rw [hgrid]
  refine ⟨h.congr hlevels hbooked ?_, hpc.congr fun i hi => ?_, fun i hi => ?_⟩
  · rw [hgrid]
    exact h.closed
  · rw [isFilledAt_congr hlevels] at hi
    exact hpc.passed i hi
  · rw [isFilledAt_congr hlevels] at hi
    exact .inl hi

theorem GridKeeps.advance {opens : ℕ → Prop} (h : LevelsHeld t) {loop : GridLoop}
    {cells : List (ℕ × ℕ)}
    (hcells : loop.isClose = true → ∀ i, t.isFilledAt i = true → (i, i) ∈ cells)
    (hfilled : ∀ i, t.isFilledAt i = true → s.isFilledAt i = true ∨ opens i) :
    GridKeeps s (t.advance cfg id now loop cells) opens := by
  obtain ⟨hheld, hfits⟩ := held_advance cfg id now h hcells
  refine ⟨hheld, hfits, fun i hi => hfilled i ?_⟩
  rwa [isFilledAt_congr (levels_advance cfg id now t loop cells)] at hi

theorem mem_closeCells {i : ℕ} (hi : s.isFilledAt i = true) : (i, i) ∈ closeCells s.grid := by
  obtain ⟨l, hl, -⟩ := (Option.any_eq_true _ _).1 hi
  obtain ⟨hlt, -⟩ := List.getElem?_eq_some_iff.1 hl
  exact List.mem_map.2 ⟨i, List.mem_range.2 hlt, rfl⟩

theorem gridKeeps_tick {opens : ℕ → Prop} (h : LevelsHeld s) (blocked : Bool) (price : ℚ) :
    GridKeeps s (s.tick cfg id now blocked price) opens := by
  unfold GridShared.tick
  split
  · exact .advance h (fun hclose => by cases hclose) fun i hi => .inl hi
  · exact .of_fits h (GridPc.fits_of_frame rfl rfl s)

theorem gridKeeps_close {opens : ℕ → Prop} (h : LevelsHeld s) (reason : String) (price : ℚ)
    (force : Bool) :
    GridKeeps s (s.close cfg id now reason price force) opens := by
  unfold GridShared.close
  split
  · have hstart : LevelsHeld (s.setGrid { s.grid with status := .closing }) :=
      h.congr rfl rfl fun hclosed => nomatch hclosed
    exact .advance hstart (fun _ i hi => mem_closeCells (s := s) hi) fun i hi => .inl hi
  · exact .of_fits h (GridPc.fits_of_frame rfl rfl s)

theorem gridKeeps_call {opens : ℕ → Prop} (h : LevelsHeld s) (job : GridJob)
    (blocked : Bool) :
    GridKeeps s (gridCall cfg job id now s blocked) opens := by
  cases job with
  | opened =>
      refine .of_fits h ?_
      split
      · exact GridPc.fits_of_frame rfl rfl s
      · exact GridPc.fits_of_frame rfl rfl s
  | tick price => exact gridKeeps_tick h blocked price
  | close reason price force => exact gridKeeps_close h reason price force
  | monitor price violated =>
      unfold gridCall
      dsimp only
      split
      · split
        · exact gridKeeps_close h _ price true
        · exact gridKeeps_tick h blocked price
      · exact .of_fits h (GridPc.fits_of_frame rfl rfl s)

/-- What is left of a loop of `close_grid` when its call has done with a level. -/
theorem GridPc.Fits.mem_rest {k : GridFrame} (hpc : pc.Fits s) (hframe : pc.frame = some k)
    (hclose : k.loop.isClose = true) {i : ℕ} (hi : s.isFilledAt i = true)
    (hne : ∀ f ∈ pc.fill, f.place ≠ i) : (i, i) ∈ k.rest := by
  by_contra hrest
  refine hpc.passed i hi ⟨?_, hne, ?_⟩
  · rw [GridPc.isClosing, hframe, Option.any_some, hclose]
  · intro k' hk'
    obtain rfl := Option.some.inj (hframe.symm.trans hk')
    exact hrest

theorem LevelsHeld.not_isFilledAt (h : LevelsHeld s) {i : ℕ} (hempty : s.held i = 0) :
    ¬ s.isFilledAt i = true := by
  intro hi
  obtain ⟨l, hl, hfilled⟩ := (Option.any_eq_true _ _).1 hi
  have hsound := h.sound l (List.mem_of_getElem? hl)
  rw [held_of_getElem? hl] at hempty
  simp [GridLevelState.Sound, hfilled, hempty] at hsound

/-- A loop of `close_grid` has done with the level whose fill its call books. -/
theorem GridPc.Fits.mem_rest_book {f : LevelFill} {k : GridFrame} {quantity : ℚ}
    {r : OrderResult} {filledAt : Timestamp} (hpc : pc.Fits s)
    (hsound : ∀ l ∈ s.grid.levels, l.Sound) (hquantity : 0 < quantity)
    (hframe : pc.frame = some k) (hfill : pc.fill = some f)
    (hclose : k.loop.isClose = true) (hsmall : s.held f.place - quantity ≤ gridEpsilon)
    {i : ℕ} (hi : (s.book f quantity r filledAt).isFilledAt i = true) : (i, i) ∈ k.rest := by
  have hclosing : pc.isClosing = true := by
    rw [GridPc.isClosing, hframe, Option.any_some, hclose]
  have hopening := hpc.close hclosing f hfill
  have hne : f.place ≠ i := by
    rintro rfl
    exact not_isFilledAt_book hopening hsmall hi
  rcases isFilledAt_book hsound hquantity hi with hi | ⟨hopen, -⟩
  · refine hpc.mem_rest hframe hclose hi fun f' hf' => ?_
    obtain rfl := Option.some.inj (hfill.symm.trans hf')
    exact hne
  · rw [hopening] at hopen
    cases hopen

/-- A call that gives a level up and goes on with its loop. -/
theorem gridKeeps_givesUp {opens : ℕ → Prop} {e : GridEvent} {f : LevelFill} {k : GridFrame}
    (h : LevelsHeld s) (hpc : pc.Fits s) (hok : FillAsHeld cfg s pc e)
    (hframe : pc.frame = some k) (hfill : pc.fill = some f) (hgives : pc.givesUp e = some f) :
    GridKeeps s (s.advance cfg id now k.loop k.rest) opens := by
  refine .advance h (fun hclose i hi => ?_) fun i hi => .inl hi
  refine hpc.mem_rest hframe hclose hi fun f' hf' => ?_
  obtain rfl := Option.some.inj (hfill.symm.trans hf')
  rintro rfl
  have hclosing : pc.isClosing = true := by rw [GridPc.isClosing, hframe, Option.any_some, hclose]
  exact h.not_isFilledAt (hok.leaves hclosing f hgives) hi

/-- The fill that a call books fills no level but the one that it opens. -/
theorem isFilledAt_book_of_books {e : GridEvent} {f : LevelFill} {quantity : ℚ}
    {r : OrderResult} {filledAt : Timestamp} (hsound : ∀ l ∈ s.grid.levels, l.Sound)
    (hquantity : 0 < quantity) (hbooks : pc.books cfg e = some (f, quantity)) (i : ℕ)
    (hi : (s.book f quantity r filledAt).isFilledAt i = true) :
    s.isFilledAt i = true ∨ ∃ x ∈ pc.books cfg e, x.1.opening = true ∧ x.1.place = i := by
  rcases isFilledAt_book hsound hquantity hi with hi | ⟨hopening, rfl⟩
  · exact .inl hi
  · exact .inr ⟨_, hbooks, hopening, rfl⟩

/-- A call that books the fill of its order. -/
theorem gridKeeps_afterRecord {e : GridEvent} {f : LevelFill} {k : GridFrame} {quantity : ℚ}
    {r : OrderResult} {filledAt : Timestamp} (h : LevelsHeld s) (hpc : pc.Fits s)
    (hok : FillAsHeld cfg s pc e) (hquantity : 0 < quantity) (hframe : pc.frame = some k)
    (hfill : pc.fill = some f) (hbooks : pc.books cfg e = some (f, quantity)) :
    GridKeeps s (s.afterRecord cfg id now f r quantity filledAt k) fun i =>
      ∃ x ∈ pc.books cfg e, x.1.opening = true ∧ x.1.place = i := by
  have hheld : LevelsHeld (s.book f quantity r filledAt) :=
    h.book hquantity (hok.closing _ hbooks) (hok.opening _ hbooks)
  have hfilled : ∀ i, (s.book f quantity r filledAt).isFilledAt i = true →
      s.isFilledAt i = true ∨ ∃ x ∈ pc.books cfg e, x.1.opening = true ∧ x.1.place = i :=
    isFilledAt_book_of_books h.sound hquantity hbooks
  have hrest : k.loop.isClose = true → ∀ i,
      (s.book f quantity r filledAt).isFilledAt i = true → (i, i) ∈ k.rest := by
    intro hclose i hi
    have hclosing : pc.isClosing = true := by
      rw [GridPc.isClosing, hframe, Option.any_some, hclose]
    exact hpc.mem_rest_book h.sound hquantity hframe hfill hclose
      (hok.closes hclosing (f, quantity) hbooks) hi
  unfold GridShared.afterRecord
  split
  · refine ⟨hheld, ⟨by simp [GridPc.filled], by simp [GridPc.fill], ?_⟩, hfilled⟩
    rintro i hi ⟨hclose, -, hk⟩
    exact hk k rfl (hrest hclose i hi)
  · have hmarked : LevelsHeld ((s.book f quantity r filledAt).setGrid
        (updateMarkToMarket (s.book f quantity r filledAt).grid f.price)) :=
      hheld.congr rfl rfl hheld.closed
    exact .advance hmarked hrest hfilled

/-- One segment of a call, on a fill that is booked as the levels hold it. -/
theorem gridKeeps_segment {job : GridJob} (hseg : gridSegment cfg job s pc w = some (t, pc'))
    (h : LevelsHeld s) (hpc : pc.Fits s) (hok : FillAsHeld cfg s pc w.event) :
    GridKeeps s (t, pc') fun i =>
      ∃ x ∈ pc.books cfg w.event, x.1.opening = true ∧ x.1.place = i := by
  have hstep := gridStep_of_segment hseg
  generalize w.event = e at hstep hok ⊢
  cases hstep with
  | starts job blocked => exact gridKeeps_call h job blocked
  | admits f o k => exact .of_fits h ⟨by simp [GridPc.filled], hpc.close, hpc.passed⟩
  | raises => exact .of_fits h (GridPc.fits_of_frame rfl rfl s)
  | leaves hgives hframe hfill => exact gridKeeps_givesUp h hpc hok hframe hfill hgives
  | fills f o k r quantity now hrepository hquantity =>
      refine .of_fits h ⟨fun q hq => ?_, hpc.close, hpc.passed⟩
      obtain rfl := Option.some.inj hq
      exact acceptedFill_pos hquantity
  | records => exact .of_congr h ⟨hpc.positive, hpc.close, hpc.passed⟩ rfl rfl
  | forgets => exact .of_fits h ⟨hpc.positive, hpc.close, hpc.passed⟩
  | books f o r quantity filledAt k =>
      exact gridKeeps_afterRecord h hpc hok (hpc.positive quantity rfl) rfl rfl rfl
  | booksUnrecorded f o k r quantity filledAt hrepository hquantity =>
      exact gridKeeps_afterRecord h hpc hok (acceptedFill_pos hquantity) rfl rfl
        (by simp [GridPc.books, hrepository, hquantity])
  | reads n => exact .of_fits h (hpc.of_frame_eq (by simp) rfl rfl)
  | stores row n => exact .of_congr h (hpc.of_frame_eq (by simp) rfl rfl) rfl rfl
  | unread n => exact .of_fits h (hpc.of_frame_eq (by simp) rfl rfl)
  | unstored row n => exact .of_fits h (hpc.of_frame_eq (by simp) rfl rfl)
  | resumes f k =>
      have hmarked : LevelsHeld (s.setGrid (updateMarkToMarket s.grid f.price)) :=
        h.congr rfl rfl h.closed
      exact .advance hmarked
        (fun hclose i hi => hpc.mem_rest rfl hclose hi fun f' hf' => by cases hf')
        fun i hi => .inl hi
  | returns => exact .of_fits h (GridPc.fits_of_frame rfl rfl s)

end Calls

section Runs

variable {ι : Type*} [DecidableEq ι]

/-- The calls suit the grid after a segment that fills no level that a close has passed. -/
theorem fits_resume {cfg : GridConfig} {P : Pool ι GridShared GridPc} {i : ι} {t : GridShared}
    {pc : GridPc} {e : GridEvent} (hfits : ∀ j, (P.task j).Fits P.shared) (hpc : pc.Fits t)
    (hfilled : ∀ place, t.isFilledAt place = true → P.shared.isFilledAt place = true ∨
      ∃ x ∈ (P.task i).books cfg e, x.1.opening = true ∧ x.1.place = place)
    (hunpassed : ∀ x ∈ (P.task i).books cfg e, x.1.opening = true →
      ∀ j, ¬ (P.task j).HasPassed x.1.place) :
    ∀ j, ((P.resume i t pc).task j).Fits t := by
  refine Pool.forall_task_resume (φ := fun _ (pc : GridPc) => pc.Fits t) (fun j _ => ?_) hpc
  refine (hfits j).congr fun place hplace => ?_
  rcases hfilled place hplace with hold | ⟨x, hx, hopening, rfl⟩
  · exact (hfits j).passed place hold
  · exact hunpassed x hx hopening j

/-- The grid is sound, and every call suits it. -/
structure GridSound (P : Pool ι GridShared GridPc) : Prop where
  held : LevelsHeld P.shared
  fits : ∀ i, (P.task i).Fits P.shared

theorem GridSound.step {cfg : GridConfig} {job : ι → GridJob}
    {P Q : Pool ι GridShared GridPc} {a : ι × GridWake} (h : GridSound P)
    (hok : FillsAsHeld cfg P a) (hnext : (gridMachine cfg job).next P a = some Q) :
    GridSound Q := by
  obtain ⟨i, w⟩ := a
  obtain ⟨t, pc', hseg, rfl⟩ := Pool.machine_next_eq_some_iff.1 hnext
  have hkeeps := gridKeeps_segment hseg h.held (h.fits i) hok.fill
  exact ⟨hkeeps.held, fits_resume h.fits hkeeps.fits hkeeps.filled hok.unpassed⟩

theorem levelsHeld_start (plan : GridPlan) (gate : Option LiveVerificationState) :
    LevelsHeld (⟨⟨buildGridState plan, gate⟩, [], none, []⟩ : GridShared) := by
  have hfresh : ∀ l ∈ freshLevels plan.prices, l.isFilled = false ∧ l.quantity = 0 := by
    intro l hl
    obtain ⟨p, -, rfl⟩ := List.mem_map.1 hl
    exact ⟨rfl, rfl⟩
  refine ⟨fun l hl => ?_, fun i => ?_, fun hclosed => nomatch hclosed⟩
  · obtain ⟨hfilled, hquantity⟩ := hfresh l hl
    simp [GridLevelState.Sound, hfilled, hquantity]
  · simp only [GridShared.total, GridShared.held, List.filter_nil, List.map_nil, List.sum_nil]
    cases hl : (buildGridState plan).levels[i]? with
    | none => simp [GridShared.grid, hl]
    | some l => simp [GridShared.grid, hl, (hfresh l (List.mem_of_getElem? hl)).2]

omit [DecidableEq ι] in
theorem gridSound_start (plan : GridPlan) (gate : Option LiveVerificationState) :
    GridSound (gridStart plan gate : Pool ι GridShared GridPc) where
  held := levelsHeld_start plan gate
  fits := fun _ => GridPc.fits_of_frame rfl rfl _

/-- In every run in which the fills are booked as the levels hold them, no level is closed
by more than it was opened, and a `CLOSED` grid has no filled level. -/
theorem levelsMatch_of_fillsAsHeld {cfg : GridConfig} {job : ι → GridJob} {plan : GridPlan}
    {gate : Option LiveVerificationState} {as : List (ι × GridWake)}
    {P : Pool ι GridShared GridPc}
    (hok : (gridMachine cfg job).Guarded (FillsAsHeld cfg) (gridStart plan gate) as)
    (hrun : (gridMachine cfg job).run (gridStart plan gate) as = some P) :
    LevelsMatch P.shared :=
  ((gridMachine cfg job).guarded_run_invariant (FillsAsHeld cfg) GridSound
    (fun _ _ _ h hok hnext => h.step hok hnext) (gridSound_start plan gate) hok
    hrun).held.levelsMatch

end Runs

/-! ### A grid that is closed twice -/

/-- A tick that opens the level, a tick that comes to its exit price, and a close. -/
def GridJob.btc : Fin 3 → GridJob
  | 0 => .tick 89
  | 1 => .tick 100
  | 2 => .close "manual" 100 true

/-- The level is opened and then closed. -/
def gridInTurn : List (Fin 3 × GridWake) := [(0, .call 1), (0, .fill), (2, .call 2), (2, .fill)]

/-- The second tick and the close order for the level before either order is filled. -/
def gridTogether : List (Fin 3 × GridWake) :=
  [(0, .call 1), (0, .fill), (1, .call 2), (2, .call 3), (1, .fill), (2, .fill)]

theorem levelsMatch_of_fillsAsHeld_btc :
    ∃ P, (gridMachine .bare .btc).run (gridStart .btc none) gridInTurn = some P ∧
      LevelsMatch P.shared := by
  have hend : ((gridMachine .bare .btc).run (gridStart .btc none) gridInTurn).isSome =
      true := by decide +kernel
  obtain ⟨P, hP⟩ := Option.isSome_iff_exists.1 hend
  exact ⟨P, hP, levelsMatch_of_fillsAsHeld (by decide +kernel) hP⟩

/-- A tick and a close sell the same level. -/
theorem not_levelsMatch :
    ¬ ∀ (cfg : GridConfig) (job : Fin 3 → GridJob) (plan : GridPlan)
      (as : List (Fin 3 × GridWake)) (P : Pool (Fin 3) GridShared GridPc),
      (gridMachine cfg job).run (gridStart plan none) as = some P → LevelsMatch P.shared := by
  intro h
  have hend : ((gridMachine .bare .btc).run (gridStart .btc none) gridTogether).any
      (fun P => decide (P.shared.total 0 true < P.shared.total 0 false)) = true := by
    decide +kernel
  obtain ⟨P, hP, hlt⟩ := (Option.any_eq_true _ _).1 hend
  exact absurd ((h _ _ _ _ P hP).totals 0) (not_le.2 (of_decide_eq_true hlt))

end Sgr
