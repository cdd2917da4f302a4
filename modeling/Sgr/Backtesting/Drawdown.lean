import Mathlib.Tactic.Linarith
import Sgr.Backtesting.Types
import Sgr.Collection.PeakScan

/-!
# The maximum drawdown

`_max_drawdown` of the `PerformanceAnalyzer` in `sgr/backtesting/performance.py`. One pass over
the equity values compares each value with the greatest one so far. The floats are exact here.
-/

open Collection

namespace Sgr

/-- The drawdown from a peak to a value, in percent. -/
def drawdownPct (peak val : ℚ) : ℚ := (peak - val) / peak * 100

/-- `days` of the time between two instants. -/
def daysBetween (start stop : Timestamp) : ℤ := (stop - start) / 86400

/-- `_max_drawdown`. The fields of the scan are `peak`, `max_dd`, `max_dd_start_idx`,
`max_dd_end_idx` and `dd_start_idx`. -/
def maxDrawdown (equity : List ℚ) (curve : List EquityCurvePoint) : ℚ × ℤ :=
  match equity with
  | [] => (0, 0)
  | [_] => (0, 0)
  | first :: _ :: _ =>
      let s := PeakScan.scan drawdownPct equity 0 ⟨first, 0, 0, 0, 0⟩
      (s.worst,
        match curve[s.worstStart]?, curve[s.worstEnd]? with
        | some start, some stop => daysBetween start.timestamp stop.timestamp
        | _, _ => 0)

/-- The drawdown from a point of a curve to a later one, or to itself, is some percent. -/
def IsDrawdown (curve : List EquityCurvePoint) (i j : ℕ) (a b : EquityCurvePoint) (d : ℚ) : Prop :=
  i ≤ j ∧ curve[i]? = some a ∧ curve[j]? = some b ∧
    d = (a.portfolioValue - b.portfolioValue) / a.portfolioValue * 100

section Spec

variable {curve : List EquityCurvePoint}

/-- The drawdown to a value is the greater, the higher the peak. -/
theorem drawdownPct_mono {x y val : ℚ} (hx : 0 < x) (hxy : x ≤ y) (hval : 0 < val) :
    drawdownPct x val ≤ drawdownPct y val := by
  have hy : 0 < y := hx.trans_le hxy
  have hratio : val / y ≤ val / x := div_le_div_of_nonneg_left hval.le hx hxy
  rw [drawdownPct, drawdownPct, sub_div, sub_div, div_self hx.ne', div_self hy.ne']
  linarith

theorem drawdownPct_self (x : ℚ) : drawdownPct x x = 0 := by simp [drawdownPct]

/-- A curve of one point is scanned to the same end as it is answered without a scan. -/
theorem maxDrawdown_eq_scan {first : ℚ} {equity : List ℚ} (hfirst : equity.head? = some first) :
    maxDrawdown equity curve =
      let s := PeakScan.scan drawdownPct equity 0 ⟨first, drawdownPct first first, 0, 0, 0⟩
      (s.worst,
        match curve[s.worstStart]?, curve[s.worstEnd]? with
        | some start, some stop => daysBetween start.timestamp stop.timestamp
        | _, _ => 0) := by
  rw [drawdownPct_self]
  match equity with
  | [] => cases hfirst
  | [x] =>
      cases hfirst
      simp only [maxDrawdown, PeakScan.scan, PeakScan.raise, PeakScan.compare, lt_irrefl, if_false,
        drawdownPct_self, Prod.mk.injEq, true_and]
      cases curve[0]? with
      | none => rfl
      | some p => simp [daysBetween]
  | x :: y :: rest =>
      cases hfirst
      rfl

theorem isDrawdown_iff {i j : ℕ} {d : ℚ} : (∃ a b, IsDrawdown curve i j a b d) ↔
    ∃ x y, i ≤ j ∧ (curve.map EquityCurvePoint.portfolioValue)[i]? = some x ∧
      (curve.map EquityCurvePoint.portfolioValue)[j]? = some y ∧ d = drawdownPct x y := by
  simp only [List.getElem?_map, Option.map_eq_some_iff]
  constructor
  · rintro ⟨a, b, hij, ha, hb, hd⟩
    exact ⟨_, _, hij, ⟨a, ha, rfl⟩, ⟨b, hb, rfl⟩, hd⟩
  · rintro ⟨_, _, hij, ⟨a, ha, rfl⟩, ⟨b, hb, rfl⟩, hd⟩
    exact ⟨a, b, hij, ha, hb, hd⟩

end Spec

/-- A point of a curve, a number of days from its start on. -/
def EquityCurvePoint.onDay (day : ℤ) (value : ℚ) : EquityCurvePoint where
  timestamp := day * 86400
  portfolioValue := value
  cash := value
  openPositionsValue := 0
  drawdownPct := 0
  dailyReturn := 0

/-- The value falls by a quarter from the second day to the fourth. -/
def EquityCurvePoint.quarterLost : List EquityCurvePoint :=
  [.onDay 0 100, .onDay 1 120, .onDay 2 100, .onDay 3 90, .onDay 4 130]

example : maxDrawdown (EquityCurvePoint.quarterLost.map EquityCurvePoint.portfolioValue)
    EquityCurvePoint.quarterLost = (25, 2) := by decide +kernel

end Sgr
