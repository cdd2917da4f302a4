import Mathlib.Algebra.Order.BigOperators.Group.List
import Sgr.Arithmetic.Decimal
import Sgr.Arithmetic.Percentile
import Sgr.Arithmetic.Precision
import Sgr.Backtesting.CashBalance
import Sgr.Backtesting.Drawdown

/-!
# The Monte Carlo analysis

`MonteCarloAnalyzer` of `sgr/backtesting/validation.py`. Each simulation runs through the trades
in another order. The order decides about the drawdowns only: a return and a Sharpe ratio are
read off the sum and the squares of the profits, which all orders share. The floats are exact
here, and the square root is a parameter.
-/

open Arithmetic

namespace Sgr

/-- A random generator: what its calls of `permutation` answer is the list in another order. -/
structure Generator where
  permutation : ℕ → List ℚ → List ℚ
  perm : ∀ k xs, (permutation k xs).Perm xs

/-- `sharpe_distribution`. -/
structure SharpeDistribution where
  min : ℚ
  p25 : ℚ
  median : ℚ
  p75 : ℚ
  max : ℚ
  deriving DecidableEq, Repr

/-- `MonteCarloResult`. -/
structure MonteCarloResult where
  nSimulations : ℕ
  medianReturnPct : ℚ
  percentile5ReturnPct : ℚ
  percentile95ReturnPct : ℚ
  medianMaxDrawdownPct : ℚ
  percentile95MaxDrawdownPct : ℚ
  ruinProbability : ℚ
  sharpeDistribution : SharpeDistribution
  deriving DecidableEq, Repr

namespace MonteCarlo

/-- `equity` of a simulation: the capital at the start and after each trade. -/
def equity (initial : ℚ) (shuffled : List ℚ) : List ℚ := shuffled.scanl (· + ·) initial

/-- `final_return`. -/
def finalReturn (initial : ℚ) (shuffled : List ℚ) : ℚ :=
  ((equity initial shuffled).getLastD initial - initial) / initial * 100

/-- One pass of the loop over the values of `equity`: `peak` and `max_dd`. -/
def drawdownStep (s : ℚ × ℚ) (val : ℚ) : ℚ × ℚ :=
  let peak := if s.1 < val then val else s.1
  let dd := drawdownPct peak val
  (peak, if s.2 < dd then dd else s.2)

/-- `max_dd` of a simulation. -/
def maxDrawdown (initial : ℚ) (shuffled : List ℚ) : ℚ :=
  ((equity initial shuffled).foldl drawdownStep (initial, 0)).2

/-- `sharpe` of a simulation. -/
def sharpe (sqrt : ℚ → ℚ) (initial : ℚ) (shuffled : List ℚ) : ℚ :=
  let tradeReturns := shuffled.map (· / initial)
  if 1 < tradeReturns.length ∧ 0 < std sqrt tradeReturns then
    mean tradeReturns / std sqrt tradeReturns * sqrt 252
  else 0

/-- `np.median`: the middle entry, or the mean of the two middle ones. -/
def median (xs : List ℚ) : ℚ := percentile 50 xs

/-- `_empty_result`. -/
def emptyResult (n : ℕ) : MonteCarloResult where
  nSimulations := n
  medianReturnPct := 0
  percentile5ReturnPct := 0
  percentile95ReturnPct := 0
  medianMaxDrawdownPct := 0
  percentile95MaxDrawdownPct := 0
  ruinProbability := 1
  sharpeDistribution := ⟨0, 0, 0, 0, 0⟩

/-- The result of the shuffles of all simulations. -/
def resultOf (sqrt : ℚ → ℚ) (initial : ℚ) (shuffles : List (List ℚ)) : MonteCarloResult :=
  let simReturns := shuffles.map (finalReturn initial)
  let simMaxDds := shuffles.map (maxDrawdown initial)
  let simSharpes := shuffles.map (sharpe sqrt initial)
  { nSimulations := shuffles.length
    medianReturnPct := quantized 2 (median simReturns)
    percentile5ReturnPct := quantized 2 (percentile 5 simReturns)
    percentile95ReturnPct := quantized 2 (percentile 95 simReturns)
    medianMaxDrawdownPct := quantized 2 (median simMaxDds)
    percentile95MaxDrawdownPct := quantized 2 (percentile 95 simMaxDds)
    ruinProbability := quantized 4 (simMaxDds.countP (50 < ·) / simMaxDds.length)
    sharpeDistribution :=
      { min := quantized 2 (simSharpes.min?.getD 0)
        p25 := quantized 2 (percentile 25 simSharpes)
        median := quantized 2 (median simSharpes)
        p75 := quantized 2 (percentile 75 simSharpes)
        max := quantized 2 (simSharpes.max?.getD 0) } }

/-- `run`. Without a simulation `np.min` raises. -/
def run (sqrt : ℚ → ℚ) (rng : Generator) (trades : List BacktestTrade) (initialCapital : ℚ)
    (nSimulations : ℕ) : Option MonteCarloResult :=
  if trades.length < 10 then some (emptyResult nSimulations)
  else if nSimulations = 0 then none
  else
    let pnls := trades.map BacktestTrade.netPnl
    some (resultOf sqrt initialCapital
      ((List.range nSimulations).map fun k => rng.permutation k pnls))

/-- What the trades that lost have lost together. -/
def lossesOf (pnls : List ℚ) : ℚ := (pnls.map fun x => max (-x) 0).sum

/-! ### One order of the trades -/

section Path

variable {initial peak : ℚ} {pnls : List ℚ}

theorem getLastD_equity (initial : ℚ) (pnls : List ℚ) (d : ℚ) :
    (equity initial pnls).getLastD d = initial + pnls.sum := by
  induction pnls generalizing initial d with
  | nil => simp [equity]
  | cons x pnls ih =>
      rw [equity, List.scanl_cons, List.getLastD_cons, ← equity, ih, List.sum_cons, add_assoc]

theorem finalReturn_eq (initial : ℚ) (pnls : List ℚ) :
    finalReturn initial pnls = pnls.sum / initial * 100 := by
  rw [finalReturn, getLastD_equity, add_sub_cancel_left]

theorem lossesOf_nonneg (pnls : List ℚ) : 0 ≤ lossesOf pnls :=
  List.sum_nonneg fun _ hx => by
    obtain ⟨y, -, rfl⟩ := List.mem_map.1 hx
    exact le_max_right _ _

/-- A gap below a peak that is at least the capital at the start. -/
theorem drawdownPct_le_of_gap {losses val : ℚ} (hinitial : 0 < initial) (hpeak : initial ≤ peak)
    (hgap : 0 ≤ peak - val) (hlosses : peak - val ≤ losses) :
    drawdownPct peak val ≤ losses / initial * 100 := by
  have hratio : (peak - val) / peak ≤ losses / initial := by
    calc (peak - val) / peak ≤ (peak - val) / initial :=
          div_le_div_of_nonneg_left hgap hinitial hpeak
      _ ≤ losses / initial := div_le_div_of_nonneg_right hlosses hinitial.le
  exact mul_le_mul_of_nonneg_right hratio (by norm_num)

/-- A step keeps the greater peak and the greater drawdown. -/
theorem drawdownStep_eq (s : ℚ × ℚ) (val : ℚ) :
    drawdownStep s val = (max s.1 val, max s.2 (drawdownPct (max s.1 val) val)) := by
  rw [drawdownStep, ← max_def_lt, ← max_def_lt]

/-- Of the values of a path the last one is compared with a peak that is at least the first one
so far. -/
theorem drawdownPct_last_le (pnls : List ℚ) (val : ℚ) (s : ℚ × ℚ) :
    ∃ peak, s.1 ≤ peak ∧
      drawdownPct peak (val + pnls.sum) ≤ ((equity val pnls).foldl drawdownStep s).2 := by
  induction pnls generalizing val s with
  | nil =>
      refine ⟨max s.1 val, le_max_left _ _, ?_⟩
      simp only [equity, List.scanl_nil, List.foldl_cons, List.foldl_nil, List.sum_nil, add_zero,
        drawdownStep_eq]
      exact le_max_right _ _
  | cons x pnls ih =>
      obtain ⟨peak, hpeak, hle⟩ := ih (val + x) (drawdownStep s val)
      refine ⟨peak, le_trans ?_ hpeak, ?_⟩
      · rw [drawdownStep_eq]
        exact le_max_left _ _
      · rw [equity, List.scanl_cons, List.foldl_cons, List.sum_cons, ← add_assoc]
        exact hle

theorem le_foldl_drawdownStep (vals : List ℚ) (s : ℚ × ℚ) :
    s.2 ≤ (vals.foldl drawdownStep s).2 := by
  induction vals generalizing s with
  | nil => exact le_rfl
  | cons val vals ih =>
      refine le_trans ?_ (ih (drawdownStep s val))
      rw [drawdownStep_eq]
      exact le_max_left _ _

/-- The gap between the peak and the value grows by losses only, so no drawdown exceeds the
losses over the capital at the start. -/
theorem foldl_drawdownStep_le {losses val : ℚ} {s : ℚ × ℚ} (hinitial : 0 < initial)
    (hpeak : initial ≤ s.1) (hgap : max s.1 val - val + lossesOf pnls ≤ losses)
    (hdd : s.2 ≤ losses / initial * 100) :
    ((equity val pnls).foldl drawdownStep s).2 ≤ losses / initial * 100 := by
  induction pnls generalizing val s with
  | nil =>
      have hlast : max s.1 val - val ≤ losses := by simpa [lossesOf] using hgap
      simp only [equity, List.scanl_nil, List.foldl_cons, List.foldl_nil, drawdownStep_eq]
      exact max_le hdd (drawdownPct_le_of_gap hinitial (hpeak.trans (le_max_left _ _))
        (sub_nonneg.2 (le_max_right _ _)) hlast)
  | cons x pnls ih =>
      have hrest := lossesOf_nonneg pnls
      have hloss : (0 : ℚ) ≤ max (-x) 0 := le_max_right _ _
      rw [lossesOf, List.map_cons, List.sum_cons, ← lossesOf] at hgap
      rw [equity, List.scanl_cons, List.foldl_cons, ← equity]
      refine ih ?_ ?_ ?_
      · rw [drawdownStep_eq]
        exact hpeak.trans (le_max_left _ _)
      · rw [drawdownStep_eq]
        have hnext : max (max s.1 val) (val + x) - (val + x) ≤
            max s.1 val - val + max (-x) 0 := by
          rcases max_cases (max s.1 val) (val + x) with ⟨h, -⟩ | ⟨h, -⟩
          · rw [h]
            linarith [le_max_left (-x) 0]
          · rw [h]
            linarith [le_max_right s.1 val]
        dsimp only
        linarith
      · rw [drawdownStep_eq]
        exact max_le hdd (drawdownPct_le_of_gap hinitial (hpeak.trans (le_max_left _ _))
          (sub_nonneg.2 (le_max_right _ _)) (by linarith))

/-- The drawdown of a simulation is at most what the losing trades lose of the capital. -/
theorem maxDrawdown_le (hinitial : 0 < initial) (pnls : List ℚ) :
    maxDrawdown initial pnls ≤ lossesOf pnls / initial * 100 := by
  have hbound : 0 ≤ lossesOf pnls / initial * 100 :=
    mul_nonneg (div_nonneg (lossesOf_nonneg pnls) hinitial.le) (by norm_num)
  refine foldl_drawdownStep_le hinitial le_rfl ?_ hbound
  rw [max_self, sub_self, zero_add]

theorem maxDrawdown_nonneg (initial : ℚ) (pnls : List ℚ) : 0 ≤ maxDrawdown initial pnls :=
  le_foldl_drawdownStep _ (initial, 0)

/-- The drawdown of a simulation is at least what all trades together lose of the capital, if
this is not more than all of it. -/
theorem le_maxDrawdown (hinitial : 0 < initial) (pnls : List ℚ) :
    min (-finalReturn initial pnls) 100 ≤ maxDrawdown initial pnls := by
  obtain ⟨peak, hpeak, hle⟩ := drawdownPct_last_le pnls initial (initial, 0)
  refine le_trans ?_ hle
  have hpos : 0 < peak := hinitial.trans_le hpeak
  rw [finalReturn_eq, drawdownPct, sub_div, div_self hpos.ne']
  rcases le_or_gt 0 (initial + pnls.sum) with hsum | hsum
  · have hratio : (initial + pnls.sum) / peak ≤ 1 + pnls.sum / initial :=
      calc (initial + pnls.sum) / peak ≤ (initial + pnls.sum) / initial :=
            div_le_div_of_nonneg_left hsum hinitial hpeak
        _ = 1 + pnls.sum / initial := by rw [add_div, div_self hinitial.ne']
    exact (min_le_left _ _).trans (by linarith)
  · have hratio : (initial + pnls.sum) / peak ≤ 0 := div_nonpos_of_nonpos_of_nonneg hsum.le hpos.le
    exact (min_le_right _ _).trans (by linarith)

end Path

/-! ### All orders of the trades -/

section Perm

variable {xs ys : List ℚ}

theorem mean_perm (h : xs.Perm ys) : mean xs = mean ys := by
  rw [mean, mean, h.sum_eq, h.length_eq]

theorem std_perm (sqrt : ℚ → ℚ) (h : xs.Perm ys) : std sqrt xs = std sqrt ys := by
  rw [std, std, mean_perm h, mean_perm (h.map _)]

theorem sharpe_perm (sqrt : ℚ → ℚ) (initial : ℚ) (h : xs.Perm ys) :
    sharpe sqrt initial xs = sharpe sqrt initial ys := by
  have hreturns := h.map (· / initial)
  simp only [sharpe, hreturns.length_eq, std_perm sqrt hreturns, mean_perm hreturns]

theorem lossesOf_perm (h : xs.Perm ys) : lossesOf xs = lossesOf ys := (h.map _).sum_eq

end Perm

section Result

variable {sqrt : ℚ → ℚ} {initial a b : ℚ} {shuffles : List (List ℚ)} {pnls : List ℚ}

/-- The least and the greatest of equal entries are these entries. -/
theorem min?_max?_of_forall_eq {xs : List ℚ} (hne : xs ≠ []) (h : ∀ x ∈ xs, x = a) :
    xs.min? = some a ∧ xs.max? = some a := by
  have hmem : a ∈ xs := by
    obtain ⟨x, hx⟩ := List.exists_mem_of_ne_nil xs hne
    exact h x hx ▸ hx
  exact ⟨List.min?_eq_some_iff.2 ⟨hmem, fun x hx => (h x hx).ge⟩,
    List.max?_eq_some_iff.2 ⟨hmem, fun x hx => (h x hx).le⟩⟩

/-- What the figures of a result are like when its simulations share the trades. -/
structure Figures (sqrt : ℚ → ℚ) (initial : ℚ) (pnls : List ℚ) (r : MonteCarloResult) : Prop where
  medianReturnPct : r.medianReturnPct = quantized 2 (pnls.sum / initial * 100)
  percentile5ReturnPct : r.percentile5ReturnPct = quantized 2 (pnls.sum / initial * 100)
  percentile95ReturnPct : r.percentile95ReturnPct = quantized 2 (pnls.sum / initial * 100)
  sharpeDistribution :
    let s := quantized 2 (sharpe sqrt initial pnls)
    r.sharpeDistribution = ⟨s, s, s, s, s⟩
  medianMaxDrawdownPct : r.medianMaxDrawdownPct ∈
    Set.Icc (quantized 2 (max 0 (min (-(pnls.sum / initial * 100)) 100)))
      (quantized 2 (lossesOf pnls / initial * 100))
  percentile95MaxDrawdownPct : r.percentile95MaxDrawdownPct ∈
    Set.Icc (quantized 2 (max 0 (min (-(pnls.sum / initial * 100)) 100)))
      (quantized 2 (lossesOf pnls / initial * 100))
  ruinProbability_eq_zero : lossesOf pnls ≤ initial / 2 → r.ruinProbability = 0
  ruinProbability_eq_one : pnls.sum < -(initial / 2) → r.ruinProbability = 1

theorem finalReturn_of_perm (initial : ℚ) (h : ∀ xs ∈ shuffles, xs.Perm pnls) :
    ∀ x ∈ shuffles.map (finalReturn initial), x = pnls.sum / initial * 100 := by
  intro x hx
  obtain ⟨xs, hxs, rfl⟩ := List.mem_map.1 hx
  rw [finalReturn_eq, (h xs hxs).sum_eq]

theorem sharpe_of_perm (sqrt : ℚ → ℚ) (initial : ℚ) (h : ∀ xs ∈ shuffles, xs.Perm pnls) :
    ∀ x ∈ shuffles.map (sharpe sqrt initial), x = sharpe sqrt initial pnls := by
  intro x hx
  obtain ⟨xs, hxs, rfl⟩ := List.mem_map.1 hx
  exact sharpe_perm sqrt initial (h xs hxs)

theorem maxDrawdown_of_perm (hinitial : 0 < initial) (h : ∀ xs ∈ shuffles, xs.Perm pnls) :
    ∀ x ∈ shuffles.map (maxDrawdown initial),
      x ∈ Set.Icc (max 0 (min (-(pnls.sum / initial * 100)) 100))
        (lossesOf pnls / initial * 100) := by
  intro x hx
  obtain ⟨xs, hxs, rfl⟩ := List.mem_map.1 hx
  have hlower := le_maxDrawdown hinitial xs
  have hupper := maxDrawdown_le hinitial xs
  rw [finalReturn_eq, (h xs hxs).sum_eq] at hlower
  rw [lossesOf_perm (h xs hxs)] at hupper
  exact ⟨max_le (maxDrawdown_nonneg initial xs) hlower, hupper⟩

theorem quantized_intCast (places : ℕ) (n : ℤ) : quantized places n = n := by
  have hscaled : (n : ℚ) * 10 ^ places = ((n * 10 ^ places : ℤ) : ℚ) := by push_cast; rfl
  rw [quantized, hscaled, roundHalfEven_intCast, ← hscaled]
  exact mul_div_cancel_right₀ _ (by positivity)

theorem quantized_mem_Icc {x : ℚ} (h : x ∈ Set.Icc a b) :
    quantized 2 x ∈ Set.Icc (quantized 2 a) (quantized 2 b) :=
  ⟨quantized_mono h.1, quantized_mono h.2⟩

/-- The figures of orders of the same trades. -/
theorem figures_resultOf (hinitial : 0 < initial) (hne : shuffles ≠ [])
    (h : ∀ xs ∈ shuffles, xs.Perm pnls) :
    Figures sqrt initial pnls (resultOf sqrt initial shuffles) := by
  have hreturns : shuffles.map (finalReturn initial) ≠ [] := List.map_eq_nil_iff.not.2 hne
  have hsharpes : shuffles.map (sharpe sqrt initial) ≠ [] := List.map_eq_nil_iff.not.2 hne
  have hdds : shuffles.map (maxDrawdown initial) ≠ [] := List.map_eq_nil_iff.not.2 hne
  have hreturn := finalReturn_of_perm initial h
  have hsharpe := sharpe_of_perm sqrt initial h
  have hdd := maxDrawdown_of_perm hinitial h
  have hlength : ((shuffles.map (maxDrawdown initial)).length : ℚ) ≠ 0 :=
    Nat.cast_ne_zero.2 (List.length_pos_iff.2 hdds).ne'
  have hreturnAt (q : ℚ) (hq : 0 ≤ q) (hq1 : q ≤ 100) :
      percentile q (shuffles.map (finalReturn initial)) = pnls.sum / initial * 100 :=
    percentile_of_forall_eq hq hq1 hreturns hreturn
  have hddAt (q : ℚ) (hq : 0 ≤ q) (hq1 : q ≤ 100) :
      percentile q (shuffles.map (maxDrawdown initial)) ∈
        Set.Icc (max 0 (min (-(pnls.sum / initial * 100)) 100))
          (lossesOf pnls / initial * 100) :=
    percentile_mem_Icc hq hq1 hdds hdd
  constructor
  case medianReturnPct =>
    exact congrArg (quantized 2) (hreturnAt 50 (by norm_num) (by norm_num))
  case percentile5ReturnPct =>
    exact congrArg (quantized 2) (hreturnAt 5 (by norm_num) (by norm_num))
  case percentile95ReturnPct =>
    exact congrArg (quantized 2) (hreturnAt 95 (by norm_num) (by norm_num))
  case sharpeDistribution =>
    obtain ⟨hmin, hmax⟩ := min?_max?_of_forall_eq hsharpes hsharpe
    have hsharpeAt (q : ℚ) (hq : 0 ≤ q) (hq1 : q ≤ 100) :
        percentile q (shuffles.map (sharpe sqrt initial)) = sharpe sqrt initial pnls :=
      percentile_of_forall_eq hq hq1 hsharpes hsharpe
    dsimp only [resultOf, median]
    rw [hmin, hmax, hsharpeAt 25 (by norm_num) (by norm_num),
      hsharpeAt 50 (by norm_num) (by norm_num), hsharpeAt 75 (by norm_num) (by norm_num)]
    rfl
  case medianMaxDrawdownPct =>
    exact quantized_mem_Icc (hddAt 50 (by norm_num) (by norm_num))
  case percentile95MaxDrawdownPct =>
    exact quantized_mem_Icc (hddAt 95 (by norm_num) (by norm_num))
  case ruinProbability_eq_zero =>
    intro hlosses
    have hhalf : lossesOf pnls / initial * 100 ≤ 50 := by
      have hratio : lossesOf pnls / initial ≤ 1 / 2 := (div_le_iff₀ hinitial).2 (by linarith)
      linarith
    have hcount : (shuffles.map (maxDrawdown initial)).countP (50 < ·) = 0 :=
      List.countP_eq_zero.2 fun x hx hlt =>
        absurd (of_decide_eq_true hlt) (not_lt.2 ((hdd x hx).2.trans hhalf))
    dsimp only [resultOf]
    rw [hcount, Nat.cast_zero, zero_div]
    exact_mod_cast quantized_intCast 4 0
  case ruinProbability_eq_one =>
    intro hsum
    have hhalf : 50 < max 0 (min (-(pnls.sum / initial * 100)) 100) := by
      have hratio : pnls.sum / initial < -(1 / 2) := (div_lt_iff₀ hinitial).2 (by linarith)
      exact lt_max_of_lt_right (lt_min (by linarith) (by norm_num))
    have hcount : (shuffles.map (maxDrawdown initial)).countP (50 < ·) =
        (shuffles.map (maxDrawdown initial)).length :=
      List.countP_eq_length.2 fun x hx => decide_eq_true (hhalf.trans_le (hdd x hx).1)
    dsimp only [resultOf]
    rw [hcount, div_self hlength]
    exact_mod_cast quantized_intCast 4 1

/-- The figures of at least ten trades are those of the trades in their own order. -/
theorem exists_figures (sqrt : ℚ → ℚ) (rng : Generator) {trades : List BacktestTrade}
    {initialCapital : ℚ} {nSimulations : ℕ} (htrades : 10 ≤ trades.length)
    (hcapital : 0 < initialCapital) (hsimulations : 0 < nSimulations) :
    ∃ r, run sqrt rng trades initialCapital nSimulations = some r ∧
      r.nSimulations = nSimulations ∧
      Figures sqrt initialCapital (trades.map BacktestTrade.netPnl) r := by
  have hne : (List.range nSimulations).map
      (fun k => rng.permutation k (trades.map BacktestTrade.netPnl)) ≠ [] :=
    List.map_eq_nil_iff.not.2 (List.range_eq_nil.not.2 hsimulations.ne')
  refine ⟨_, by rw [run, if_neg (not_lt.2 htrades), if_neg hsimulations.ne'], ?_,
    figures_resultOf hcapital hne fun xs hxs => ?_⟩
  · simp [resultOf]
  · obtain ⟨k, -, rfl⟩ := List.mem_map.1 hxs
    exact rng.perm k _

end Result

end MonteCarlo

/-- The generator that turns every list around. -/
def Generator.reversing : Generator where
  permutation _ xs := xs.reverse
  perm _ xs := xs.reverse_perm

/-- A trade of one day with a profit. -/
def BacktestTrade.ofNetPnl (netPnl : ℚ) : BacktestTrade where
  symbol := "BTC/USDT"
  strategy := "trend_following_v1"
  side := "long"
  entryTime := 0
  exitTime := 86400
  entryPrice := 100
  exitPrice := 101
  quantity := 1
  grossPnl := netPnl
  fees := 0
  slippage := 0
  netPnl := netPnl
  holdingBars := 24
  regime := .trendingUp
  maxAdverseExcursion := 0
  maxFavorableExcursion := 0
  entrySignalConfidence := 3 / 5
  exitReason := "time_exit"

/-- Twelve trades, of which every third one loses. -/
def twelveTrades : List BacktestTrade :=
  [30, -20, 30, 30, -20, 30, 30, -20, 30, 30, -20, 30].map BacktestTrade.ofNetPnl

end Sgr
