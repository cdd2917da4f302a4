import Mathlib.Algebra.Order.Ring.Abs
import Mathlib.Data.List.Chain
import Sgr.Backtesting.HistoryLoader
import Sgr.Collection.Slots
import Sgr.MarketData.Feed
import Sgr.MarketData.StoredSeries

/-!
# Gaps of a series

`detect_in_series` of `sgr/market_data/gap_detector.py`, to the microsecond. A gap is measured
from the bar that was expected to the one that came, and its bars are counted by a division that
rounds down. So of the bars of a gap one is not counted when the bar after it comes earlier, seen
from the grid, than the one before it.
-/

open Collection

namespace Sgr

/-- `DataGap`; its symbol and its timeframe are those of the series. -/
structure SeriesGap where
  gapStart : ℤ
  gapEnd : ℤ
  missingCandles : ℕ
  deriving DecidableEq

/-- `_TIMESTAMP_TOLERANCE_SECONDS`, in microseconds. -/
def timestampTolerance : ℤ := timestampToleranceSeconds * microseconds

/-- `detect` for a bar and the next one, by their times. -/
def detectBetween (timeframe : String) (lastKnown firstNew : ℤ) : List SeriesGap :=
  let expectedNext := lastKnown + barLength timeframe
  if |firstNew - expectedNext| ≤ timestampTolerance then []
  else if expectedNext + timestampTolerance < firstNew then
    let missing := (firstNew - expectedNext) / barLength timeframe
    if 0 < missing then [⟨expectedNext, firstNew, missing.toNat⟩] else []
  else []

/-- `detect_in_series`. -/
def detectInSeries (timeframe : String) : List HistoryBar → List SeriesGap
  | [] => []
  | [_] => []
  | prev :: curr :: rest =>
      detectBetween timeframe prev.timestamp curr.timestamp ++
        detectInSeries timeframe (curr :: rest)

/-- The total of `missing_candles`. -/
def totalMissing (gaps : List SeriesGap) : ℕ := (gaps.map SeriesGap.missingCandles).sum

/-- On whole seconds the detector finds what it finds for the feed. -/
theorem detectBetween_mul (timeframe : String) (c c' : Candle) :
    (detectBetween timeframe (c.timestamp * microseconds) (c'.timestamp * microseconds)).map
        SeriesGap.missingCandles =
      (detect timeframe [c] [c']).map DataGap.missingCandles := by
  have hpos : 0 < microseconds := by decide
  have hdiff : c'.timestamp * microseconds -
      (c.timestamp * microseconds + barLength timeframe) =
      (c'.timestamp - (c.timestamp + timeframeToSeconds timeframe)) * microseconds := by
    rw [barLength]
    ring
  have habs : |(c'.timestamp - (c.timestamp + timeframeToSeconds timeframe)) * microseconds| ≤
      timestampTolerance ↔ |c'.timestamp - (c.timestamp + timeframeToSeconds timeframe)| ≤
        timestampToleranceSeconds := by
    rw [abs_mul, abs_of_pos hpos, timestampTolerance, mul_le_mul_iff_of_pos_right hpos]
  have hlate : c.timestamp * microseconds + barLength timeframe + timestampTolerance <
      c'.timestamp * microseconds ↔
      c.timestamp + timeframeToSeconds timeframe + timestampToleranceSeconds < c'.timestamp := by
    rw [barLength, timestampTolerance, ← add_mul, ← add_mul, mul_lt_mul_iff_of_pos_right hpos]
  have hmissing : (c'.timestamp - (c.timestamp + timeframeToSeconds timeframe)) * microseconds /
      barLength timeframe = (c'.timestamp - (c.timestamp + timeframeToSeconds timeframe)) /
        timeframeToSeconds timeframe := by
    rw [barLength, Int.mul_ediv_mul_of_pos_left _ _ hpos]
  simp only [detectBetween, detect, List.getLast?_singleton, List.head?_cons, hdiff, habs, hlate,
    hmissing]
  split
  · rfl
  · split
    · split <;> rfl
    · rfl

/-- A bar that is not late is no gap. -/
theorem detectBetween_of_le {timeframe : String} {t u : ℤ}
    (h : u ≤ t + barLength timeframe + timestampTolerance) :
    detectBetween timeframe t u = [] := by
  simp only [detectBetween, h.not_gt, if_false, ite_self]

/-- The bars that are counted before a late one. -/
theorem totalMissing_of_lt {timeframe : String} {t u : ℤ}
    (h : t + barLength timeframe + timestampTolerance < u) :
    totalMissing (detectBetween timeframe t u) =
      ((u - (t + barLength timeframe)) / barLength timeframe).toNat := by
  have hlate : ¬ |u - (t + barLength timeframe)| ≤ timestampTolerance := by
    have hle := le_abs_self (u - (t + barLength timeframe))
    omega
  simp only [detectBetween, hlate, h, if_false, if_true]
  split
  next => simp [totalMissing]
  next hnone => simp [totalMissing, Int.toNat_of_nonpos (not_lt.1 hnone)]

/-! ### Series on a grid -/

section Grid

variable {timeframe : String} {origin t u : ℤ}

/-- The time deviates from a line of the grid by less than half the tolerance. -/
def OnGrid (timeframe : String) (origin t : ℤ) : Prop :=
  ∃ k : ℤ, 2 * |t - (origin + k * barLength timeframe)| < timestampTolerance

/-- The slot of a bar. -/
def barSlot (timeframe : String) (origin : ℤ) (c : HistoryBar) : ℤ :=
  slotOf origin (barLength timeframe) c.timestamp

/-- Bars are absent between two neighbours, and the second of them comes earlier, seen from its
line of the grid, than the first. -/
def ComesEarly (timeframe : String) (origin : ℤ) (c c' : HistoryBar) : Prop :=
  barSlot timeframe origin c + 1 < barSlot timeframe origin c' ∧
    offsetOf origin (barLength timeframe) c'.timestamp <
      offsetOf origin (barLength timeframe) c.timestamp

theorem OnGrid.offset_bounds (h : OnGrid timeframe origin t) :
    -timestampTolerance < 2 * offsetOf origin (barLength timeframe) t ∧
      2 * offsetOf origin (barLength timeframe) t < timestampTolerance := by
  obtain ⟨k, hk⟩ := h
  have hbar := minute_le_barLength timeframe
  have htolerance : timestampTolerance < 60 * microseconds := by decide
  have hminute : 0 < 60 * microseconds := by decide
  have hpos : 0 < barLength timeframe := by omega
  have hslot : slotOf origin (barLength timeframe) t = k := slotOf_eq hpos (by omega)
  have hlow := neg_abs_le (t - (origin + k * barLength timeframe))
  have hhigh := le_abs_self (t - (origin + k * barLength timeframe))
  rw [offsetOf, hslot]
  omega

/-- The bars that are counted between two neighbours. -/
theorem totalMissing_detectBetween (ht : OnGrid timeframe origin t) (hu : OnGrid timeframe origin u)
    (hle : t ≤ u) :
    totalMissing (detectBetween timeframe t u) =
      if slotOf origin (barLength timeframe) t + 1 < slotOf origin (barLength timeframe) u ∧
          offsetOf origin (barLength timeframe) u < offsetOf origin (barLength timeframe) t
      then slotsBetween (slotOf origin (barLength timeframe) t)
        (slotOf origin (barLength timeframe) u) - 1
      else slotsBetween (slotOf origin (barLength timeframe) t)
        (slotOf origin (barLength timeframe) u) := by
  obtain ⟨htlow, hthigh⟩ := ht.offset_bounds
  obtain ⟨hulow, huhigh⟩ := hu.offset_bounds
  have hbar := minute_le_barLength timeframe
  have htolerance : timestampTolerance = 5000000 := by decide
  have hminute : 60 * microseconds = 60000000 := by decide
  have hslots : slotOf origin (barLength timeframe) t ≤ slotOf origin (barLength timeframe) u :=
    slotOf_mono (by omega) hle
  have htime := eq_add_offsetOf origin (barLength timeframe) t
  have hutime := eq_add_offsetOf origin (barLength timeframe) u
  generalize slotOf origin (barLength timeframe) t = k at *
  generalize slotOf origin (barLength timeframe) u = k' at *
  generalize offsetOf origin (barLength timeframe) t = a at *
  generalize offsetOf origin (barLength timeframe) u = b at *
  have hdiff : u - (t + barLength timeframe) =
      (b - a) + (k' - k - 1) * barLength timeframe := by
    rw [htime, hutime]
    ring
  by_cases hgap : k + 1 < k'
  · -- the division loses a bar exactly when the deviations bring the two bars closer together
    have hmore : barLength timeframe ≤ (k' - k - 1) * barLength timeframe :=
      le_mul_of_one_le_left (by omega) (by omega)
    have hdiv : (b - a) / barLength timeframe = if b < a then -1 else 0 := by
      split
      next => exact Int.ediv_eq_neg_one_of_neg_of_le (by omega) (by omega)
      next => exact Int.ediv_eq_zero_of_lt (by omega) (by omega)
    rw [totalMissing_of_lt (by omega), hdiff, Int.add_mul_ediv_right _ _ (by omega), hdiv,
      slotsBetween]
    by_cases hearly : b < a
    · rw [if_pos hearly, if_pos ⟨hgap, hearly⟩]
      omega
    · rw [if_neg hearly, if_neg fun h => hearly h.2]
      omega
  · have hnear : (k' - k - 1) * barLength timeframe ≤ 0 :=
      mul_nonpos_of_nonpos_of_nonneg (by omega) (by omega)
    rw [detectBetween_of_le (by omega), if_neg fun h => hgap h.1, slotsBetween]
    simp only [totalMissing, List.map_nil, List.sum_nil]
    omega

/-- The gaps of a series are those of its neighbours. -/
theorem totalMissing_detectInSeries (timeframe : String) (bars : List HistoryBar) :
    totalMissing (detectInSeries timeframe bars) = sumNeighbours (fun c c' =>
      totalMissing (detectBetween timeframe c.timestamp c'.timestamp)) bars := by
  induction bars with
  | nil => rfl
  | cons c bars ih =>
      cases bars with
      | nil => rfl
      | cons c' bars =>
          rw [sumNeighbours, ← ih, detectInSeries, totalMissing, List.map_append, List.sum_append,
            totalMissing, totalMissing]

/-- The slots between the first and the last bar without a bar. -/
def absentBars (timeframe : String) (origin : ℤ) (bars : List HistoryBar) : ℕ :=
  absentSlots (bars.map (barSlot timeframe origin))

/-- The missing candles of an ascending series on a grid are the absent ones, and none exactly if
none is absent, exactly when no bar after a gap comes earlier, seen from its line of the grid,
than the one before the gap. -/
theorem totalMissing_eq_absentBars_iff (timeframe : String) (origin : ℤ) {bars : List HistoryBar}
    (hascends : Ascends HistoryBar.timestamp bars)
    (hgrid : ∀ c ∈ bars, OnGrid timeframe origin c.timestamp) :
    (totalMissing (detectInSeries timeframe bars) = absentBars timeframe origin bars ∧
        (totalMissing (detectInSeries timeframe bars) = 0 ↔ absentBars timeframe origin bars = 0)) ↔
      bars.IsChain fun c c' => ¬ ComesEarly timeframe origin c c' := by
  have hpos : 0 < barLength timeframe :=
    (by decide : 0 < 60 * microseconds).trans_le (minute_le_barLength timeframe)
  have hslots : (bars.map (barSlot timeframe origin)).Pairwise (· ≤ ·) :=
    List.pairwise_map.2 (hascends.imp fun hle => slotOf_mono hpos hle)
  have hpairs : bars.IsChain fun c c' =>
      totalMissing (detectBetween timeframe c.timestamp c'.timestamp) ≤
          slotsBetween (barSlot timeframe origin c) (barSlot timeframe origin c') ∧
        (totalMissing (detectBetween timeframe c.timestamp c'.timestamp) =
            slotsBetween (barSlot timeframe origin c) (barSlot timeframe origin c') ↔
          ¬ ComesEarly timeframe origin c c') := by
    refine (hascends.imp_of_mem fun {c c'} hc hc' hle => ?_).isChain
    rw [totalMissing_detectBetween (hgrid c hc) (hgrid c' hc') hle, ComesEarly, barSlot, barSlot]
    split
    next hearly =>
      rw [slotsBetween]
      exact ⟨Nat.sub_le _ _, iff_of_false (by omega) (not_not.2 hearly)⟩
    next hearly => exact ⟨le_rfl, iff_of_true rfl hearly⟩
  rw [absentBars, absentSlots_eq_sumNeighbours hslots, sumNeighbours_map,
    totalMissing_detectInSeries, ← sumNeighbours_eq_iff hpairs]
  exact and_iff_left_of_imp fun heq => by rw [heq]

end Grid

/-- A bar at a second. -/
def HistoryBar.atSecond (second : ℤ) : HistoryBar where
  openPrice := 100
  high := 110
  low := 90
  closePrice := 100
  volume := 1
  highGteLow := hourRow_low_le_high
  timestamp := second * microseconds

/-- The bars of three minutes, all on the grid. -/
theorem totalMissing_eq_absentBars_iff_threeMinutes :
    (totalMissing (detectInSeries "1m" ([0, 60, 120].map HistoryBar.atSecond)) =
          absentBars "1m" 0 ([0, 60, 120].map HistoryBar.atSecond) ∧
        (totalMissing (detectInSeries "1m" ([0, 60, 120].map HistoryBar.atSecond)) = 0 ↔
          absentBars "1m" 0 ([0, 60, 120].map HistoryBar.atSecond) = 0)) ↔
      ([0, 60, 120].map HistoryBar.atSecond).IsChain fun c c' => ¬ ComesEarly "1m" 0 c c' :=
  totalMissing_eq_absentBars_iff "1m" 0 (by decide +kernel)
    (List.forall_mem_map.2 fun second hsecond => ⟨second / 60, by
      revert second
      decide +kernel⟩)

/-- A bar that is one second early after a minute without one. -/
theorem not_totalMissing_eq_absentBars :
    ¬ ∀ (timeframe : String) (origin : ℤ) (bars : List HistoryBar),
      Ascends HistoryBar.timestamp bars →
      (∀ c ∈ bars, OnGrid timeframe origin c.timestamp) →
      totalMissing (detectInSeries timeframe bars) = absentBars timeframe origin bars ∧
        (totalMissing (detectInSeries timeframe bars) = 0 ↔
          absentBars timeframe origin bars = 0) := by
  intro h
  have hgrid : ∀ c ∈ [0, 119].map HistoryBar.atSecond, OnGrid "1m" 0 c.timestamp := by
    refine List.forall_mem_map.2 fun second hsecond => ⟨(second + 1) / 60, ?_⟩
    revert second
    decide +kernel
  have heq := (h "1m" 0 ([0, 119].map HistoryBar.atSecond) (by decide +kernel) hgrid).1
  revert heq
  decide +kernel

end Sgr
