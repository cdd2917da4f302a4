import Sgr.Arithmetic.Precision
import Sgr.Grid.Parameters

/-!
# The prices of the levels

`compute_levels` of `FuturesGridParameters` in `sgr/core/grid_types.py`, with the context of the
decimals: every operation is rounded to 28 digits, and a level that does not fit into them with
eight decimal places raises. The levels of an arithmetic grid keep apart if its prices are
multiples of the eighth decimal place and its step is one at least.
-/

open Arithmetic

namespace Sgr

namespace FuturesGridParameters

/-- `step` of an arithmetic grid. -/
def step28 (p : FuturesGridParameters) : ℚ :=
  rounded 28 (rounded 28 (p.gridUpperPrice - p.gridLowerPrice) / (p.gridCount - 1))

/-- A level before it is rounded to eight decimal places. The powers of the ratio of a geometric
grid are those of `computeLevels`. -/
def level28 (ratioPower : ℚ → ℕ → ℕ → ℚ) (p : FuturesGridParameters) (i : ℕ) : ℚ :=
  match p.gridMode with
  | .geometric =>
      rounded 28 (p.gridLowerPrice *
        ratioPower (rounded 28 (p.gridUpperPrice / p.gridLowerPrice)) (p.gridCount - 1) i)
  | .arithmetic => rounded 28 (p.gridLowerPrice + rounded 28 (p.step28 * i))

/-- `compute_levels` in the context of the decimals; `none` is an `InvalidOperation`. -/
def computeLevels28 (ratioPower : ℚ → ℕ → ℕ → ℚ) (p : FuturesGridParameters) :
    Option (List ℚ) :=
  (List.range p.gridCount).mapM fun i => Arithmetic.quantize 8 28 (p.level28 ratioPower i)

/-- The levels are as many as the grid has, positive and strictly increasing from the lower price
to the upper one. -/
structure LevelsFit (p : FuturesGridParameters) (levels : List ℚ) : Prop where
  length : levels.length = p.gridCount
  increasing : levels.Pairwise (· < ·)
  positive : ∀ x ∈ levels, 0 < x
  first : levels.head? = some p.gridLowerPrice
  last : levels.getLast? = some p.gridUpperPrice

/-- `compute_levels` returns such levels. -/
def ComputesFit (ratioPower : ℚ → ℕ → ℕ → ℚ) (p : FuturesGridParameters) : Prop :=
  ∃ levels, p.computeLevels28 ratioPower = some levels ∧ p.LevelsFit levels

/-- Both prices are multiples of the eighth decimal place with at most 28 digits, and the step is
one at least. -/
def OnTicks (p : FuturesGridParameters) : Prop :=
  ∃ lower upper : ℤ, p.gridLowerPrice = lower / 10 ^ 8 ∧ p.gridUpperPrice = upper / 10 ^ 8 ∧
    upper < 10 ^ 28 ∧ (p.gridCount : ℤ) - 1 ≤ upper - lower

/-- The digits of the context are enough: the step is a multiple of the eighth decimal place, or
the upper price is not greater than the error of 28 digits allows for so many levels. -/
def DigitsSuffice (p : FuturesGridParameters) : Prop :=
  (∃ k : ℤ, p.gridUpperPrice - p.gridLowerPrice = k / 10 ^ 8 * (p.gridCount - 1)) ∨
    (p.gridCount - 1) * p.gridUpperPrice ≤ 3 * 10 ^ 18

/-- A level in units of the eighth decimal place. -/
def tick28 (ratioPower : ℚ → ℕ → ℕ → ℚ) (p : FuturesGridParameters) (i : ℕ) : ℤ :=
  roundHalfEven (p.level28 ratioPower i * 10 ^ 8)

end FuturesGridParameters

/-- A list is mapped by a partial function exactly if that is defined on all of it. -/
theorem mapM_ite_eq_some_iff {α β : Type*} {φ : α → Prop} [DecidablePred φ] {g : α → β}
    {xs : List α} {ys : List β} :
    (xs.mapM fun x => if φ x then some (g x) else none) = some ys ↔
      (∀ x ∈ xs, φ x) ∧ ys = xs.map g := by
  induction xs generalizing ys with
  | nil => simp [eq_comm]
  | cons x xs ih =>
      rw [List.mapM_cons]
      by_cases hx : φ x
      · simp only [hx, if_true, Option.bind_eq_bind, Option.bind_some, Option.bind_eq_some_iff, ih,
          List.forall_mem_cons, true_and, List.map_cons]
        constructor
        · rintro ⟨zs, ⟨hall, rfl⟩, hys⟩
          exact ⟨hall, (Option.some.inj hys).symm⟩
        · rintro ⟨hall, rfl⟩
          exact ⟨_, ⟨hall, rfl⟩, rfl⟩
      · simp [hx]

section Increasing

variable {t : ℕ → ℤ} {n : ℕ}

/-- Integers that grow from each to the next grow by one each time at least. -/
theorem add_le_of_lt_succ (h : ∀ i, i + 1 < n → t i < t (i + 1)) {i j : ℕ} (hij : i ≤ j)
    (hj : j < n) : t i + (j - i : ℕ) ≤ t j := by
  induction j with
  | zero =>
      obtain rfl : i = 0 := Nat.le_zero.1 hij
      simp
  | succ j ih =>
      rcases hij.lt_or_eq with hlt | rfl
      · have hprevious := ih (Nat.le_of_lt_succ hlt) (Nat.lt_of_succ_lt hj)
        have hnext := h j hj
        omega
      · simp

end Increasing

namespace FuturesGridParameters

section Levels

variable {ratioPower : ℚ → ℕ → ℕ → ℚ} {p : FuturesGridParameters} {levels : List ℚ}

theorem computeLevels28_eq_some_iff : p.computeLevels28 ratioPower = some levels ↔
    (∀ i < p.gridCount, (p.tick28 ratioPower i).natAbs < 10 ^ 28) ∧
      levels = (List.range p.gridCount).map fun i => (p.tick28 ratioPower i : ℚ) / 10 ^ 8 := by
  have hiff : ((List.range p.gridCount).mapM fun i =>
      if (p.tick28 ratioPower i).natAbs < 10 ^ 28 then
        some ((p.tick28 ratioPower i : ℚ) / 10 ^ 8)
      else none) = some levels ↔ _ := mapM_ite_eq_some_iff
  simp only [List.mem_range] at hiff
  exact hiff

/-- Levels that fit, in units of the eighth decimal place. -/
structure TicksFit (ratioPower : ℚ → ℕ → ℕ → ℚ) (p : FuturesGridParameters) (lower upper : ℤ) :
    Prop where
  increasing : ∀ i, i + 1 < p.gridCount → p.tick28 ratioPower i < p.tick28 ratioPower (i + 1)
  first : p.tick28 ratioPower 0 = lower
  last : p.tick28 ratioPower (p.gridCount - 1) = upper

theorem TicksFit.le_upper {lower upper : ℤ} (h : TicksFit ratioPower p lower upper) {i : ℕ}
    (hi : i < p.gridCount) : lower + i ≤ p.tick28 ratioPower i ∧
      p.tick28 ratioPower i ≤ upper := by
  have hfirst := add_le_of_lt_succ h.increasing (Nat.zero_le i) hi
  have hlast := add_le_of_lt_succ h.increasing (Nat.le_sub_one_of_lt hi)
    (Nat.sub_lt (Nat.zero_lt_of_lt hi) Nat.zero_lt_one)
  rw [h.first] at hfirst
  rw [h.last] at hlast
  exact ⟨by omega, by omega⟩

theorem lt_div_iff_of_tick {a b : ℤ} : (a : ℚ) / 10 ^ 8 < b / 10 ^ 8 ↔ a < b := by
  rw [div_lt_div_iff_of_pos_right (by positivity), Int.cast_lt]

theorem pos_of_tick {lower : ℤ} (hlower : p.gridLowerPrice = lower / 10 ^ 8) : 0 < lower := by
  have hpos := p.lower_pos
  rwa [hlower, div_pos_iff_of_pos_right (by positivity), Int.cast_pos] at hpos

theorem lt_of_ticks {lower upper : ℤ} (hlower : p.gridLowerPrice = lower / 10 ^ 8)
    (hupper : p.gridUpperPrice = upper / 10 ^ 8) : lower < upper := by
  have hlt := p.lower_lt_upper
  rwa [hlower, hupper, lt_div_iff_of_tick] at hlt

theorem gridCount_ne_zero (p : FuturesGridParameters) : p.gridCount ≠ 0 := by
  have := p.two_le_gridCount
  omega

/-- The ticks of levels that fit. -/
theorem LevelsFit.ticksFit (h : p.LevelsFit ((List.range p.gridCount).map fun i =>
      (p.tick28 ratioPower i : ℚ) / 10 ^ 8)) :
    p.gridLowerPrice = p.tick28 ratioPower 0 / 10 ^ 8 ∧
      p.gridUpperPrice = p.tick28 ratioPower (p.gridCount - 1) / 10 ^ 8 ∧
      TicksFit ratioPower p (p.tick28 ratioPower 0) (p.tick28 ratioPower (p.gridCount - 1)) := by
  have hcount := p.gridCount_ne_zero
  have hfirst := h.first
  have hlast := h.last
  rw [List.head?_map, List.head?_range, if_neg hcount, Option.map_some] at hfirst
  rw [List.getLast?_map, List.getLast?_range, if_neg hcount, Option.map_some] at hlast
  refine ⟨(Option.some.inj hfirst).symm, (Option.some.inj hlast).symm, fun i hi => ?_, rfl, rfl⟩
  have hpair := List.pairwise_iff_getElem.1 (List.pairwise_map.1 h.increasing) i (i + 1)
    (by simpa using Nat.lt_of_succ_lt hi) (by simpa using hi) (Nat.lt_succ_self i)
  rw [List.getElem_range, List.getElem_range] at hpair
  exact lt_div_iff_of_tick.1 hpair

/-- Ticks that fit are those of levels that fit. -/
theorem TicksFit.levelsFit {lower upper : ℤ} (h : TicksFit ratioPower p lower upper)
    (hlower : p.gridLowerPrice = lower / 10 ^ 8) (hupper : p.gridUpperPrice = upper / 10 ^ 8) :
    p.LevelsFit ((List.range p.gridCount).map fun i =>
      (p.tick28 ratioPower i : ℚ) / 10 ^ 8) := by
  have hcount := p.gridCount_ne_zero
  refine ⟨by simp, ?_, ?_, ?_, ?_⟩
  · refine List.pairwise_map.2 (List.pairwise_lt_range.imp_of_mem fun {i j} _ hj hij => ?_)
    have hgrow := add_le_of_lt_succ h.increasing hij.le (List.mem_range.1 hj)
    exact lt_div_iff_of_tick.2 (by omega)
  · intro x hx
    obtain ⟨i, hi, rfl⟩ := List.mem_map.1 hx
    have hlevel := (h.le_upper (List.mem_range.1 hi)).1
    have hpos := pos_of_tick hlower
    exact div_pos (Int.cast_pos.2 (by omega)) (by positivity)
  · rw [List.head?_map, List.head?_range, if_neg hcount, Option.map_some, h.first, hlower]
  · rw [List.getLast?_map, List.getLast?_range, if_neg hcount, Option.map_some, h.last, hupper]

/-- The levels of `compute_levels` fit exactly if its ticks do, from the one price to the other. -/
theorem computesFit_iff : p.ComputesFit ratioPower ↔
    ∃ lower upper : ℤ, p.gridLowerPrice = lower / 10 ^ 8 ∧ p.gridUpperPrice = upper / 10 ^ 8 ∧
      upper < 10 ^ 28 ∧ TicksFit ratioPower p lower upper := by
  constructor
  · rintro ⟨levels, hcompute, hfit⟩
    obtain ⟨hdigits, rfl⟩ := computeLevels28_eq_some_iff.1 hcompute
    obtain ⟨hlower, hupper, hticks⟩ := hfit.ticksFit
    have hlast := hdigits (p.gridCount - 1) (by have := p.two_le_gridCount; omega)
    exact ⟨_, _, hlower, hupper, by omega, hticks⟩
  · rintro ⟨lower, upper, hlower, hupper, hdigits, hticks⟩
    have hpos := pos_of_tick hlower
    refine ⟨_, computeLevels28_eq_some_iff.2 ⟨fun i hi => ?_, rfl⟩,
      hticks.levelsFit hlower hupper⟩
    have hlevel := hticks.le_upper hi
    omega

/-- Levels fit only if the prices are on ticks. -/
theorem ComputesFit.onTicks (h : p.ComputesFit ratioPower) : p.OnTicks := by
  obtain ⟨lower, upper, hlower, hupper, hdigits, hticks⟩ := computesFit_iff.1 h
  refine ⟨lower, upper, hlower, hupper, hdigits, ?_⟩
  have hcount := p.two_le_gridCount
  have hlast := (hticks.le_upper (i := p.gridCount - 1) (by omega))
  rw [hticks.last] at hlast
  omega

/-- The difference of two prices on ticks is exact in the context. -/
theorem rounded_sub_of_ticks {lower upper : ℤ} (hlower : p.gridLowerPrice = lower / 10 ^ 8)
    (hupper : p.gridUpperPrice = upper / 10 ^ 8) (hdigits : upper < 10 ^ 28) :
    rounded 28 (p.gridUpperPrice - p.gridLowerPrice) = p.gridUpperPrice - p.gridLowerPrice := by
  have hpos := pos_of_tick hlower
  have hlt := lt_of_ticks hlower hupper
  have hdifference : p.gridUpperPrice - p.gridLowerPrice = ((upper - lower : ℤ) : ℚ) / 10 ^ 8 := by
    rw [hlower, hupper]
    push_cast
    ring
  rw [hdifference, rounded_div_pow]
  rw [abs_of_pos (by omega)]
  omega

/-- There are one step at least. -/
theorem one_le_steps (p : FuturesGridParameters) : (1 : ℚ) ≤ p.gridCount - 1 := by
  have hcount : (2 : ℚ) ≤ p.gridCount := by exact_mod_cast p.two_le_gridCount
  linarith

theorem step_of_multiple {lower upper k : ℤ} (hlower : p.gridLowerPrice = lower / 10 ^ 8)
    (hupper : p.gridUpperPrice = upper / 10 ^ 8) (hstep : upper - lower = k * (p.gridCount - 1)) :
    (p.gridUpperPrice - p.gridLowerPrice) / (p.gridCount - 1) = (k : ℚ) / 10 ^ 8 := by
  have hcast : (upper : ℚ) - lower = k * (p.gridCount - 1) := by exact_mod_cast hstep
  have hne : (p.gridCount : ℚ) - 1 ≠ 0 := (zero_lt_one.trans_le p.one_le_steps).ne'
  rw [hlower, hupper, ← sub_div, hcast, div_div, mul_div_mul_right _ _ hne]

/-- A step that is a multiple of the eighth decimal place makes exact levels. -/
theorem tick28_of_multiple (harithmetic : p.gridMode = .arithmetic) {lower upper k : ℤ}
    (hlower : p.gridLowerPrice = lower / 10 ^ 8) (hupper : p.gridUpperPrice = upper / 10 ^ 8)
    (hdigits : upper < 10 ^ 28) (hk : 0 < k) (hstep : upper - lower = k * (p.gridCount - 1))
    {i : ℕ} (hi : i < p.gridCount) : p.tick28 ratioPower i = lower + k * i := by
  have hpos := pos_of_tick hlower
  have hmultiple : k * i ≤ upper - lower := by
    rw [hstep]
    exact mul_le_mul_of_nonneg_left (by omega) hk.le
  have hmultiple_nonneg : 0 ≤ k * i := mul_nonneg hk.le (Int.natCast_nonneg i)
  have hk_le : k ≤ upper - lower := by
    rw [hstep]
    have hcount := p.two_le_gridCount
    exact le_mul_of_one_le_right hk.le (by omega)
  have hstep28 : p.step28 = k / 10 ^ 8 := by
    rw [step28, rounded_sub_of_ticks hlower hupper hdigits, step_of_multiple hlower hupper hstep,
      rounded_div_pow]
    rw [abs_of_pos hk]
    omega
  have hproduct : p.step28 * i = ((k * i : ℤ) : ℚ) / 10 ^ 8 := by
    rw [hstep28]
    push_cast
    ring
  have hsum : p.gridLowerPrice + ((k * i : ℤ) : ℚ) / 10 ^ 8 =
      ((lower + k * i : ℤ) : ℚ) / 10 ^ 8 := by
    rw [hlower]
    push_cast
    ring
  have hlevel : p.level28 ratioPower i = ((lower + k * i : ℤ) : ℚ) / 10 ^ 8 := by
    have hproduct28 : rounded 28 (((k * i : ℤ) : ℚ) / 10 ^ 8) = ((k * i : ℤ) : ℚ) / 10 ^ 8 := by
      refine rounded_div_pow 8 ?_
      rw [abs_of_nonneg hmultiple_nonneg]
      omega
    unfold level28
    rw [harithmetic]
    dsimp only
    rw [hproduct, hproduct28, hsum, rounded_div_pow]
    rw [abs_of_pos (by omega)]
    omega
  rw [tick28, hlevel, div_mul_cancel₀ _ (by positivity), roundHalfEven_intCast]

theorem ticksFit_of_multiple (harithmetic : p.gridMode = .arithmetic) {lower upper k : ℤ}
    (hlower : p.gridLowerPrice = lower / 10 ^ 8) (hupper : p.gridUpperPrice = upper / 10 ^ 8)
    (hdigits : upper < 10 ^ 28) (hk : 0 < k) (hstep : upper - lower = k * (p.gridCount - 1)) :
    TicksFit ratioPower p lower upper := by
  have hcount := p.two_le_gridCount
  have htick : ∀ i < p.gridCount, p.tick28 ratioPower i = lower + k * i := fun i hi =>
    tick28_of_multiple harithmetic hlower hupper hdigits hk hstep hi
  refine ⟨fun i hi => ?_, ?_, ?_⟩
  · rw [htick i (by omega), htick (i + 1) hi]
    push_cast
    linarith
  · rw [htick 0 (by omega)]
    simp
  · rw [htick (p.gridCount - 1) (by omega)]
    have hcast : ((p.gridCount - 1 : ℕ) : ℤ) = p.gridCount - 1 := by omega
    rw [hcast, ← hstep]
    ring

/-- Such levels are those of exact decimals. -/
theorem computeLevels28_of_multiple (harithmetic : p.gridMode = .arithmetic) {lower upper k : ℤ}
    (hlower : p.gridLowerPrice = lower / 10 ^ 8) (hupper : p.gridUpperPrice = upper / 10 ^ 8)
    (hdigits : upper < 10 ^ 28) (hk : 0 < k) (hstep : upper - lower = k * (p.gridCount - 1)) :
    p.computeLevels28 ratioPower = some (p.computeLevels ratioPower) := by
  have hticks : TicksFit ratioPower p lower upper :=
    ticksFit_of_multiple harithmetic hlower hupper hdigits hk hstep
  have hpos := pos_of_tick hlower
  refine computeLevels28_eq_some_iff.2 ⟨fun i hi => ?_, List.map_congr_left fun i hi => ?_⟩
  · have hlevel := hticks.le_upper hi
    omega
  · have hexact : (p.gridLowerPrice + (p.gridUpperPrice - p.gridLowerPrice) /
        (p.gridCount - 1) * i) * 10 ^ 8 = ((lower + k * i : ℤ) : ℚ) := by
      rw [step_of_multiple hlower hupper hstep, hlower]
      push_cast
      ring
    rw [harithmetic, Arithmetic.quantized, hexact, roundHalfEven_intCast,
      tick28_of_multiple harithmetic hlower hupper hdigits hk hstep (List.mem_range.1 hi)]

/-- The error of a level: of the step, of its multiple and of the sum. -/
theorem abs_sub_le_of_rounded {lo hi y z a c : ℚ} (hlo : 0 ≤ lo) (hy : 0 ≤ y) (hle : lo + y ≤ hi)
    (hz : |z - y| ≤ 5 / 10 ^ 28 * y) (ha : |a - z| ≤ 5 / 10 ^ 28 * |z|)
    (hc : |c - (lo + a)| ≤ 5 / 10 ^ 28 * |lo + a|) : |c - (lo + y)| ≤ 16 / 10 ^ 28 * hi := by
  have hz' := abs_le.1 hz
  have hznonneg : 0 ≤ z := by linarith
  rw [abs_of_nonneg hznonneg] at ha
  have ha' := abs_le.1 ha
  have hanonneg : 0 ≤ a := by linarith
  rw [abs_of_nonneg (add_nonneg hlo hanonneg)] at hc
  have hc' := abs_le.1 hc
  rw [abs_le]
  constructor
  · linarith
  · linarith

/-- A level differs from the exact one by the error of 28 digits. -/
theorem abs_level28_sub_le (harithmetic : p.gridMode = .arithmetic)
    (hexact : rounded 28 (p.gridUpperPrice - p.gridLowerPrice) =
      p.gridUpperPrice - p.gridLowerPrice) {i : ℕ} (hi : i < p.gridCount) :
    |p.level28 ratioPower i - (p.gridLowerPrice +
      (p.gridUpperPrice - p.gridLowerPrice) / (p.gridCount - 1) * i)| ≤
        16 / 10 ^ 28 * p.gridUpperPrice := by
  have hsteps := p.one_le_steps
  have hrange : 0 < p.gridUpperPrice - p.gridLowerPrice := sub_pos.2 p.lower_lt_upper
  have hstep : 0 ≤ (p.gridUpperPrice - p.gridLowerPrice) / (p.gridCount - 1) :=
    div_nonneg hrange.le (by linarith)
  have hindex : (0 : ℚ) ≤ i := Nat.cast_nonneg i
  have hlast : (i : ℚ) ≤ p.gridCount - 1 := by
    have hcast : (i : ℚ) + 1 ≤ p.gridCount := by exact_mod_cast hi
    linarith
  have hle : p.gridLowerPrice +
      (p.gridUpperPrice - p.gridLowerPrice) / (p.gridCount - 1) * i ≤ p.gridUpperPrice := by
    have hmul := mul_le_mul_of_nonneg_left hlast hstep
    rw [div_mul_cancel₀ _ (by linarith)] at hmul
    linarith
  unfold level28
  rw [harithmetic]
  refine abs_sub_le_of_rounded p.lower_pos.le (mul_nonneg hstep hindex) hle ?_
    (abs_rounded_sub_le 28 _) (abs_rounded_sub_le 28 _)
  -- the error of the step, as often as it is added
  rw [← sub_mul, abs_mul, abs_of_nonneg hindex, ← mul_assoc]
  refine mul_le_mul_of_nonneg_right ?_ hindex
  have herror := abs_rounded_sub_le 28
    ((p.gridUpperPrice - p.gridLowerPrice) / (p.gridCount - 1))
  rw [abs_of_nonneg hstep] at herror
  rwa [step28, hexact]

/-- A level that is near a tick is rounded to it. -/
theorem tick28_eq_of_abs_le {i : ℕ} {x : ℚ} {n : ℤ} (hx : x = n / 10 ^ 8)
    (hprice : p.gridUpperPrice ≤ 3 * 10 ^ 18)
    (h : |p.level28 ratioPower i - x| ≤ 16 / 10 ^ 28 * p.gridUpperPrice) :
    p.tick28 ratioPower i = n := by
  refine roundHalfEven_eq_of_abs_lt ?_
  obtain ⟨hlow, hhigh⟩ := abs_le.1 h
  have hn : (n : ℚ) = x * 10 ^ 8 := by rw [hx, div_mul_cancel₀ _ (by positivity)]
  rw [hn, abs_lt]
  constructor
  · linarith
  · linarith

/-- Levels whose step is greater than the eighth decimal place stay apart in spite of the error of
28 digits, if the upper price is not too great for so many levels. -/
theorem ticksFit_of_le (harithmetic : p.gridMode = .arithmetic) {lower upper : ℤ}
    (hlower : p.gridLowerPrice = lower / 10 ^ 8) (hupper : p.gridUpperPrice = upper / 10 ^ 8)
    (hdigits : upper < 10 ^ 28) (hstep : (p.gridCount : ℤ) - 1 < upper - lower)
    (hprice : (p.gridCount - 1) * p.gridUpperPrice ≤ 3 * 10 ^ 18) :
    TicksFit ratioPower p lower upper := by
  have hcount := p.two_le_gridCount
  have hsteps := p.one_le_steps
  have hpos : (0 : ℚ) < p.gridCount - 1 := zero_lt_one.trans_le hsteps
  have hupper_pos : 0 < p.gridUpperPrice := p.lower_pos.trans p.lower_lt_upper
  have hbound : p.gridUpperPrice ≤ 3 * 10 ^ 18 :=
    (le_mul_of_one_le_left hupper_pos.le hsteps).trans hprice
  have herror : ∀ i < p.gridCount, |p.level28 ratioPower i - (p.gridLowerPrice +
      (p.gridUpperPrice - p.gridLowerPrice) / (p.gridCount - 1) * i)| ≤
        16 / 10 ^ 28 * p.gridUpperPrice := fun i hi =>
    abs_level28_sub_le harithmetic (rounded_sub_of_ticks hlower hupper hdigits) hi
  refine ⟨fun i hi => ?_, ?_, ?_⟩
  · -- the steps exceed the errors
    have hshare : p.gridUpperPrice ≤ 3 * 10 ^ 18 * (1 / (p.gridCount - 1)) := by
      rw [mul_one_div, le_div_iff₀ hpos, mul_comm]
      exact hprice
    have hshare_pos : (0 : ℚ) < 1 / (p.gridCount - 1) := one_div_pos.2 hpos
    have hgap : (1 + 1 / ((p.gridCount : ℚ) - 1)) / 10 ^ 8 ≤
        (p.gridUpperPrice - p.gridLowerPrice) / (p.gridCount - 1) := by
      have hticks : (p.gridCount : ℚ) - 1 + 1 ≤ upper - lower := by exact_mod_cast hstep
      rw [le_div_iff₀ hpos, div_mul_eq_mul_div, add_mul, one_mul, one_div_mul_cancel hpos.ne',
        hlower, hupper, ← sub_div]
      exact div_le_div_of_nonneg_right hticks (by positivity)
    obtain ⟨-, hhigh⟩ := abs_le.1 (herror i (Nat.lt_of_succ_lt hi))
    obtain ⟨hlow, -⟩ := abs_le.1 (herror (i + 1) hi)
    refine roundHalfEven_lt ?_
    push_cast at hlow
    linarith
  · refine tick28_eq_of_abs_le hlower hbound ?_
    simpa using herror 0 (Nat.zero_lt_of_lt hcount)
  · refine tick28_eq_of_abs_le hupper hbound ?_
    have hlast := herror (p.gridCount - 1) (Nat.sub_lt (Nat.zero_lt_of_lt hcount) Nat.zero_lt_one)
    rw [Nat.cast_sub (by omega), Nat.cast_one, div_mul_cancel₀ _ hpos.ne',
      add_sub_cancel] at hlast
    exact hlast

/-- Prices on ticks make levels that fit if 28 digits are enough. -/
theorem OnTicks.computesFit (h : p.OnTicks) (harithmetic : p.gridMode = .arithmetic)
    (hsuffice : p.DigitsSuffice) : p.ComputesFit ratioPower := by
  obtain ⟨lower, upper, hlower, hupper, hdigits, hcount⟩ := h
  refine computesFit_iff.2 ⟨lower, upper, hlower, hupper, hdigits, ?_⟩
  have hsteps : 0 < (p.gridCount : ℤ) - 1 := by
    have := p.two_le_gridCount
    omega
  rcases hsuffice with ⟨k, hk⟩ | hprice
  · have hstep : upper - lower = k * (p.gridCount - 1) := by
      rw [hlower, hupper, ← sub_div, div_mul_eq_mul_div,
        div_left_inj' (by positivity : (10 : ℚ) ^ 8 ≠ 0)] at hk
      exact_mod_cast hk
    have hpos : 0 < k := by
      rw [← mul_pos_iff_of_pos_right hsteps, ← hstep]
      exact sub_pos.2 (lt_of_ticks hlower hupper)
    exact ticksFit_of_multiple harithmetic hlower hupper hdigits hpos hstep
  · rcases hcount.lt_or_eq with hmore | heq
    · exact ticksFit_of_le harithmetic hlower hupper hdigits hmore hprice
    · -- the step is the eighth decimal place itself
      exact ticksFit_of_multiple harithmetic hlower hupper hdigits one_pos (by rw [one_mul, heq])

/-- The levels of an arithmetic grid fit only if its prices are on ticks, and if 28 digits are
enough they do. -/
theorem computesFit_iff_onTicks (ratioPower : ℚ → ℕ → ℕ → ℚ) (p : FuturesGridParameters)
    (harithmetic : p.gridMode = .arithmetic) :
    (p.ComputesFit ratioPower → p.OnTicks) ∧
      (p.DigitsSuffice → (p.ComputesFit ratioPower ↔ p.OnTicks)) :=
  ⟨ComputesFit.onTicks, fun hsuffice =>
    ⟨ComputesFit.onTicks, fun h => h.computesFit harithmetic hsuffice⟩⟩

end Levels

/-- Six levels from 120 to 130. -/
def sixLevels : FuturesGridParameters where
  gridLowerPrice := 120
  gridUpperPrice := 130
  gridCount := 6
  longOrShort := .long
  lower_pos := by decide
  lower_lt_upper := by decide
  two_le_gridCount := by decide
  one_le_leverage := one_le_default
  not_neutral := GridDirection.long_ne_neutral

/-- They fit. -/
theorem computesFit_iff_onTicks_sixLevels :
    sixLevels.DigitsSuffice ∧ sixLevels.OnTicks ∧
      sixLevels.ComputesFit fun _ _ _ => 1 := by
  have hsuffice : sixLevels.DigitsSuffice := Or.inr (by norm_num [sixLevels])
  have hticks : sixLevels.OnTicks :=
    ⟨120 * 10 ^ 8, 130 * 10 ^ 8, by norm_num [sixLevels], by norm_num [sixLevels],
      by norm_num, by norm_num [sixLevels]⟩
  exact ⟨hsuffice, hticks,
    ((computesFit_iff_onTicks (fun _ _ _ => 1) sixLevels rfl).2 hsuffice).2 hticks⟩

/-- Three levels below the eighth decimal place. -/
def belowTick : FuturesGridParameters where
  gridLowerPrice := 1 / 10 ^ 9
  gridUpperPrice := 2 / 10 ^ 9
  gridCount := 3
  longOrShort := .long
  lower_pos := by decide +kernel
  lower_lt_upper := by decide +kernel
  two_le_gridCount := by decide
  one_le_leverage := one_le_default
  not_neutral := GridDirection.long_ne_neutral

/-- The levels of an arithmetic grid do not always fit: all may be rounded to zero. -/
theorem not_computesFit : ¬ ∀ (ratioPower : ℚ → ℕ → ℕ → ℚ) (p : FuturesGridParameters),
    p.gridMode = .arithmetic → p.ComputesFit ratioPower := by
  intro h
  obtain ⟨levels, hcompute, hfit⟩ := h (fun _ _ _ => 1) belowTick rfl
  have hzero : belowTick.computeLevels28 (fun _ _ _ => 1) = some [0, 0, 0] := by decide +kernel
  obtain rfl := Option.some.inj (hzero.symm.trans hcompute)
  exact (hfit.positive 0 List.mem_cons_self).false

/-- Twelve levels one hundred-millionth and a tenth of it apart, at a price of nineteen digits. -/
def manyDigits : FuturesGridParameters where
  gridLowerPrice := 10 ^ 18
  gridUpperPrice := 10 ^ 18 + 12 / 10 ^ 8
  gridCount := 12
  longOrShort := .long
  lower_pos := by decide +kernel
  lower_lt_upper := by decide +kernel
  two_le_gridCount := by decide
  one_le_leverage := one_le_default
  not_neutral := GridDirection.long_ne_neutral

/-- Where 28 digits are not enough, two levels may meet although the prices are on ticks. -/
example : (manyDigits.computeLevels28 fun _ _ _ => 1).map (fun levels => levels[5]?) =
    (manyDigits.computeLevels28 fun _ _ _ => 1).map (fun levels => levels[6]?) := by
  decide +kernel

end FuturesGridParameters

end Sgr
