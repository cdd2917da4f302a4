import Mathlib.Order.Bounds.Basic
import Sgr.Arithmetic.Decimal
import Sgr.Execution.Preflight

/-!
# The size of a position

`PositionSizer` of `sgr/risk/position_sizer.py`. The notional value of an order is the least
of several bounds, reduced when the signal is not confident; the quantity is rounded to eight
decimal places. A fixed notional value replaces the bounds that adapt to the market.

The context of the decimals has a precision of 28 digits, and a quantity that does not fit
into it raises.
-/

open Arithmetic

namespace Sgr

inductive SignalDirection
  | long
  | short
  | close
  | neutral
  deriving DecidableEq, Repr

/-- The keys of `Signal.metadata` that are looked up. -/
structure SignalMetadata where
  targetPrice : Option ℚ := none
  stopPrice : Option ℚ := none

/-- A trading signal of a strategy. -/
structure Signal where
  id : UUID
  strategyName : String
  symbol : Symbol
  direction : SignalDirection
  confidence : ℚ
  regime : MarketRegime
  metadata : SignalMetadata := {}
  sizeHint : ℚ := 1
  confidence_mem : 0 ≤ confidence ∧ confidence ≤ 1
  sizeHint_mem : 0 ≤ sizeHint ∧ sizeHint ≤ 1 := by norm_num

/-- The risk limits of the configuration that the risk engine reads. -/
structure RiskLimits extends RiskLimitsConfig where
  maxPortfolioDrawdown : ℚ := 3 / 20
  dailyLossLimit : ℚ := 1 / 20
  maxSinglePositionPct : ℚ := 1 / 10
  var95Limit : ℚ := 3 / 100
  portfolioHeatLimit : ℚ := 7 / 10
  maxCorrelationExposure : ℚ := 4 / 5
  maxOpenPositions : ℕ := 10
  tradeCooldownSeconds : ℕ := 300
  positionSizeUsd : Option ℚ := none
  stopLossPct : ℚ := 1 / 100
  riskPerTradePct : ℚ := 1 / 100
  maxTotalExposurePct : Option ℚ := none
  stopLossPct_pos : 0 < stopLossPct := by norm_num

/-- What `compute` is called with besides the limits. -/
structure SizingCall where
  signal : Signal
  portfolioValue : ℚ
  availableCapital : ℚ
  currentPrice : ℚ
  atr : Option ℚ := none
  portfolioHeat : ℚ
  winRate : Option ℚ := none
  profitFactor : Option ℚ := none

/-- The default of `min_order_size`. -/
def minOrderSize : ℚ := 1 / 1000

/-- `_fractional_kelly`. -/
def fractionalKelly (winRate profitFactor : ℚ) : ℚ :=
  if profitFactor ≤ 0 then 0
  else max ((winRate * profitFactor - (1 - winRate)) / profitFactor) 0 * (1 / 4)

/-- `quantize(Decimal("0.00000001"))`. -/
def quantize8 (x : ℚ) : Option ℚ := quantize 8 28 x

/-- The notional value of an order, capped by `max_order_notional`; the flag says that it
has been capped. -/
def capOrder (limits : RiskLimits) (notional : ℚ) : ℚ × Bool :=
  match limits.maxOrderNotional with
  | some most => if most < notional then (most, true) else (notional, false)
  | none => (notional, false)

/-- `_compute_fixed_notional`; `none` is an exception. -/
def computeFixedNotional (limits : RiskLimits) (call : SizingCall) (size : ℚ) :
    Option (ℚ × Option String) :=
  let affordable := min size call.availableCapital
  let notional := (capOrder limits affordable).1
  let reason :=
    if (capOrder limits affordable).2 then
      some ("Fixed position size capped by max_order_notional (" ++ toString notional ++ ")")
    else if call.availableCapital < size then
      some "Fixed position size capped by available capital"
    else none
  let risk := notional * limits.stopLossPct
  let budget := call.availableCapital * limits.riskPerTradePct
  if budget < risk then
    some (0, some ("Implied risk " ++ fixedText 2 risk ++ " at " ++
      percentText 1 limits.stopLossPct ++ " stop exceeds risk-per-trade budget " ++
      fixedText 2 budget ++ " (" ++ percentText 1 limits.riskPerTradePct ++
      " of capital) - rejecting rather than resizing"))
  else
    (quantize8 (notional / call.currentPrice)).map fun quantity =>
      if quantity ≤ 0 then
        (0, some ("Quantity rounds to 0 at notional " ++ toString notional ++ "/price " ++
          toString call.currentPrice))
      else (quantity, reason)

namespace SizingCall

variable (limits : RiskLimits) (call : SizingCall)

/-- The notional value that a single position may have. -/
def maxNotional : ℚ := call.portfolioValue * limits.maxSinglePositionPct

/-- The notional value that the signal asks for. -/
def baseNotional : ℚ := call.maxNotional limits * call.signal.sizeHint

/-- The notional value at which a move of two average true ranges costs one percent. -/
def atrNotional : Option ℚ :=
  (call.atr.filter fun atr => 0 < atr).map fun atr =>
    call.portfolioValue * (1 / 100) / (atr * 2) * call.currentPrice

/-- The notional value of a quarter of the Kelly criterion. -/
def kellyNotional : Option ℚ :=
  match call.winRate, call.profitFactor with
  | some winRate, some profitFactor =>
      if 0 < winRate ∧ 0 < fractionalKelly winRate profitFactor then
        some (call.portfolioValue * fractionalKelly winRate profitFactor)
      else none
  | _, _ => none

/-- The notional value that the portfolio heat leaves. -/
def heatNotional : ℚ :=
  call.portfolioValue * (limits.portfolioHeatLimit - call.portfolioHeat) * (1 / 10)

/-- The least of the candidates, capped by the largest position and by the capital. -/
def candidateNotional : ℚ :=
  min (min ((call.atrNotional.toList ++ call.kellyNotional.toList ++
    [call.heatNotional limits]).foldl min (call.baseNotional limits))
    (call.maxNotional limits)) call.availableCapital

/-- The reduction for a signal that is not confident. -/
def confidenceFactor : ℚ :=
  if call.signal.confidence < 3 / 5 then call.signal.confidence / (3 / 5) else 1

/-- The reason that is given for a quantity. -/
def reductionReason (notional : ℚ) (capped : Bool) : Option String :=
  let base := call.baseNotional limits
  if capped then
    some ("Max order size cap (" ++ (limits.maxOrderNotional.map toString).getD "None" ++ ")")
  else if notional < base * (9 / 10) then
    if call.atrNotional.any fun atr => atr ≠ 0 ∧ atr < base then
      some "ATR-based sizing (high volatility)"
    else if call.kellyNotional.any fun kelly => kelly ≠ 0 ∧ kelly < base then
      some "Kelly criterion reduction"
    else if call.heatNotional limits < base then
      some ("Portfolio heat limit (" ++ percentText 1 call.portfolioHeat ++ ")")
    else none
  else none

end SizingCall

/-- `compute` without a fixed notional value; `none` is an exception. -/
def computeAdaptive (limits : RiskLimits) (call : SizingCall) : Option (ℚ × Option String) :=
  if limits.portfolioHeatLimit - call.portfolioHeat ≤ 0 then
    some (0, some ("Portfolio heat at maximum (" ++ percentText 1 call.portfolioHeat ++ ")"))
  else
    let capped := capOrder limits (call.candidateNotional limits)
    let notional := capped.1 * call.confidenceFactor
    let quantity := notional / call.currentPrice
    if quantity < minOrderSize then
      some (0, some ("Quantity " ++ fixedText 8 quantity ++ " below minimum 0.001"))
    else
      (quantize8 quantity).map fun q => (q, call.reductionReason limits notional capped.2)

/-- `compute`; `none` is an exception. -/
def computeSize (limits : RiskLimits) (call : SizingCall) : Option (ℚ × Option String) :=
  if call.portfolioValue ≤ 0 ∨ call.currentPrice ≤ 0 then
    some (0, some "Invalid portfolio_value or price")
  else if call.availableCapital ≤ 0 then some (0, some "No available capital")
  else
    match limits.positionSizeUsd with
    | some size => computeFixedNotional limits call size
    | none => computeAdaptive limits call

/-! ### The bounds of an order -/

/-- The bounds of the notional value of an order. -/
def notionalBounds (limits : RiskLimits) (call : SizingCall) : List ℚ :=
  (match limits.positionSizeUsd with
    | some size => [size]
    | none =>
        call.baseNotional limits :: (call.atrNotional.toList ++ call.kellyNotional.toList ++
          [call.heatNotional limits, call.maxNotional limits])) ++
    call.availableCapital :: limits.maxOrderNotional.toList

/-- The quantity that a bound leaves. -/
def boundedQuantity (limits : RiskLimits) (call : SizingCall) (bound : ℚ) : ℚ :=
  if limits.positionSizeUsd.isSome then bound / call.currentPrice
  else bound * call.confidenceFactor / call.currentPrice

/-- A quantity is enough to be ordered. -/
def EnoughToOrder (limits : RiskLimits) (quantity : ℚ) : Prop :=
  if limits.positionSizeUsd.isSome then 1 / 2 < quantity * 10 ^ 8 else minOrderSize ≤ quantity

/-- An order can be sized: every bound leaves enough to be ordered, and one of them little
enough to be risked and to be rounded. -/
structure CanBeSized (limits : RiskLimits) (call : SizingCall) : Prop where
  portfolioValue : 0 < call.portfolioValue
  currentPrice : 0 < call.currentPrice
  capital : 0 < call.availableCapital
  risk : limits.positionSizeUsd.isSome → ∃ bound ∈ notionalBounds limits call,
    bound * limits.stopLossPct ≤ call.availableCapital * limits.riskPerTradePct
  heat : limits.positionSizeUsd = none → call.portfolioHeat < limits.portfolioHeatLimit
  enough : ∀ bound ∈ notionalBounds limits call,
    EnoughToOrder limits (boundedQuantity limits call bound)
  fits : ∃ bound ∈ notionalBounds limits call,
    boundedQuantity limits call bound * 10 ^ 8 < 10 ^ 28 - 1 / 2

/-- The notional value of an order before the confidence of the signal is looked at. -/
def orderNotional (limits : RiskLimits) (call : SizingCall) : ℚ :=
  (capOrder limits
    (match limits.positionSizeUsd with
      | some size => min size call.availableCapital
      | none => call.candidateNotional limits)).1

/-- The quantity of an order that can be sized. -/
def orderQuantity (limits : RiskLimits) (call : SizingCall) : ℚ :=
  quantized 8 (boundedQuantity limits call (orderNotional limits call))

section Bounds

variable {limits : RiskLimits} {call : SizingCall}

theorem isLeast_capOrder {s : Set ℚ} {a : ℚ} (h : IsLeast s a) :
    IsLeast {b | b ∈ s ∨ b ∈ limits.maxOrderNotional.toList} (capOrder limits a).1 := by
  unfold capOrder
  cases limits.maxOrderNotional with
  | none => simpa using h
  | some most =>
      have hset : {b | b ∈ s ∨ b ∈ (some most).toList} = insert most s := by
        ext b
        simp [or_comm]
      have hmin : (if most < a then (most, true) else (a, false)).1 = min most a := by
        split
        next hlt => rw [min_eq_left hlt.le]
        next hle => rw [min_eq_right (not_lt.1 hle)]
      rw [hset, hmin]
      exact h.insert most

/-- The notional value of an order is the least of its bounds. -/
theorem isLeast_orderNotional (limits : RiskLimits) (call : SizingCall) :
    IsLeast {b | b ∈ notionalBounds limits call} (orderNotional limits call) := by
  unfold orderNotional notionalBounds
  cases limits.positionSizeUsd with
  | some size =>
      have hleast : IsLeast {b | b = size ∨ b = call.availableCapital}
          (min size call.availableCapital) := isLeast_pair
      convert isLeast_capOrder hleast using 1
      ext b
      simp [or_assoc]
  | none =>
      have hleast := isLeast_foldl_min (call.baseNotional limits)
        (call.atrNotional.toList ++ call.kellyNotional.toList ++ [call.heatNotional limits])
      have hbounds := (hleast.insert (call.maxNotional limits)).insert call.availableCapital
      have hcandidate : call.candidateNotional limits = min call.availableCapital
          (min (call.maxNotional limits) ((call.atrNotional.toList ++
            call.kellyNotional.toList ++ [call.heatNotional limits]).foldl min
              (call.baseNotional limits))) := by
        rw [SizingCall.candidateNotional, min_comm _ call.availableCapital,
          min_comm _ (call.maxNotional limits)]
      dsimp only
      rw [hcandidate]
      convert isLeast_capOrder hbounds using 1
      ext b
      simp only [List.mem_append, List.mem_cons, Set.mem_ofPred_eq, Set.mem_insert_iff,
        List.not_mem_nil, or_false]
      tauto

theorem confidenceFactor_nonneg (call : SizingCall) : 0 ≤ call.confidenceFactor := by
  have hconfidence := call.signal.confidence_mem.1
  unfold SizingCall.confidenceFactor
  split
  · positivity
  · exact zero_le_one

theorem boundedQuantity_mono (hprice : 0 < call.currentPrice) {b c : ℚ} (h : b ≤ c) :
    boundedQuantity limits call b ≤ boundedQuantity limits call c := by
  unfold boundedQuantity
  split
  · exact div_le_div_of_nonneg_right h hprice.le
  · exact div_le_div_of_nonneg_right
      (mul_le_mul_of_nonneg_right h (confidenceFactor_nonneg call)) hprice.le

theorem EnoughToOrder.mono {x y : ℚ} (h : x ≤ y) (hx : EnoughToOrder limits x) :
    EnoughToOrder limits y := by
  unfold EnoughToOrder at hx ⊢
  by_cases hfixed : limits.positionSizeUsd.isSome = true
  · rw [if_pos hfixed] at hx ⊢
    linarith
  · rw [if_neg hfixed] at hx ⊢
    exact hx.trans h

/-- A number is rounded to a positive one when it is neither too small nor too large. -/
theorem quantize8_eq_some_pos_iff {x q : ℚ} :
    quantize8 x = some q ∧ 0 < q ↔
      1 / 2 < x * 10 ^ 8 ∧ x * 10 ^ 8 < 10 ^ 28 - 1 / 2 ∧ q = quantized 8 x := by
  have hround : 0 ≤ x →
      quantize8 x = if x * 10 ^ 8 < 10 ^ 28 - 1 / 2 then some (quantized 8 x) else none :=
    fun hx => by rw [quantize8, quantize_of_nonneg hx (by decide)]
  constructor
  · rintro ⟨hsome, hpos⟩
    have hq : q = quantized 8 x := by
      unfold quantize8 quantize at hsome
      split at hsome
      · exact (Option.some.inj hsome).symm
      · cases hsome
    have hlarge : 1 / 2 < x * 10 ^ 8 := by rwa [hq, quantized_pos_iff] at hpos
    rw [hround (by linarith)] at hsome
    split at hsome
    next hsmall => exact ⟨hlarge, hsmall, hq⟩
    next => cases hsome
  · rintro ⟨hlarge, hsmall, rfl⟩
    rw [hround (by linarith), if_pos hsmall]
    exact ⟨rfl, quantized_pos_iff.2 hlarge⟩

theorem computeFixedNotional_iff {size : ℚ} (hsize : limits.positionSizeUsd = some size)
    {quantity : ℚ} :
    (∃ reason, computeFixedNotional limits call size = some (quantity, reason) ∧
      0 < quantity) ↔
      orderNotional limits call * limits.stopLossPct ≤
          call.availableCapital * limits.riskPerTradePct ∧
        EnoughToOrder limits (boundedQuantity limits call (orderNotional limits call)) ∧
        boundedQuantity limits call (orderNotional limits call) * 10 ^ 8 < 10 ^ 28 - 1 / 2 ∧
        quantity = orderQuantity limits call := by
  have hnotional : orderNotional limits call =
      (capOrder limits (min size call.availableCapital)).1 := by rw [orderNotional, hsize]
  have hbounded : boundedQuantity limits call (orderNotional limits call) =
      (capOrder limits (min size call.availableCapital)).1 / call.currentPrice := by
    rw [boundedQuantity, if_pos (by simp [hsize]), hnotional]
  have henough : ∀ x, EnoughToOrder limits x ↔ 1 / 2 < x * 10 ^ 8 := fun x => by
    rw [EnoughToOrder, if_pos (by simp [hsize])]
  rw [henough, orderQuantity, hbounded, hnotional, ← quantize8_eq_some_pos_iff]
  unfold computeFixedNotional
  dsimp only
  split
  next hrisk =>
    refine iff_of_false ?_ fun h => absurd h.1 (not_le.2 hrisk)
    rintro ⟨reason, heq, hpos⟩
    obtain ⟨rfl, -⟩ := Prod.mk.inj (Option.some.inj heq)
    exact lt_irrefl 0 hpos
  next hrisk =>
    constructor
    · rintro ⟨reason, heq, hpos⟩
      obtain ⟨q, hq, hpair⟩ := Option.map_eq_some_iff.1 heq
      split at hpair
      · obtain ⟨rfl, -⟩ := Prod.mk.inj hpair
        exact absurd hpos (lt_irrefl 0)
      · obtain ⟨rfl, -⟩ := Prod.mk.inj hpair
        exact ⟨not_lt.1 hrisk, hq, hpos⟩
    · rintro ⟨-, hq, hpos⟩
      rw [hq, Option.map_some, if_neg (not_le.2 hpos)]
      exact ⟨_, rfl, hpos⟩

theorem computeAdaptive_iff (hsize : limits.positionSizeUsd = none) {quantity : ℚ} :
    (∃ reason, computeAdaptive limits call = some (quantity, reason) ∧ 0 < quantity) ↔
      call.portfolioHeat < limits.portfolioHeatLimit ∧
        EnoughToOrder limits (boundedQuantity limits call (orderNotional limits call)) ∧
        boundedQuantity limits call (orderNotional limits call) * 10 ^ 8 < 10 ^ 28 - 1 / 2 ∧
        quantity = orderQuantity limits call := by
  have hnotional : orderNotional limits call =
      (capOrder limits (call.candidateNotional limits)).1 := by rw [orderNotional, hsize]
  have hbounded : boundedQuantity limits call (orderNotional limits call) =
      (capOrder limits (call.candidateNotional limits)).1 * call.confidenceFactor /
        call.currentPrice := by
    rw [boundedQuantity, if_neg (by simp [hsize]), hnotional]
  have henough : ∀ x, EnoughToOrder limits x ↔ minOrderSize ≤ x := fun x => by
    rw [EnoughToOrder, if_neg (by simp [hsize])]
  rw [henough, orderQuantity, hbounded]
  unfold computeAdaptive
  dsimp only
  split
  next hheat =>
    refine iff_of_false ?_ fun h => by linarith [h.1]
    rintro ⟨reason, heq, hpos⟩
    obtain ⟨rfl, -⟩ := Prod.mk.inj (Option.some.inj heq)
    exact lt_irrefl 0 hpos
  next hheat =>
    have hcool : call.portfolioHeat < limits.portfolioHeatLimit := by linarith
    split
    next hsmall =>
      refine iff_of_false ?_ fun h => absurd h.2.1 (not_le.2 hsmall)
      rintro ⟨reason, heq, hpos⟩
      obtain ⟨rfl, -⟩ := Prod.mk.inj (Option.some.inj heq)
      exact lt_irrefl 0 hpos
    next hlarge =>
      have hmin : minOrderSize ≤ (capOrder limits (call.candidateNotional limits)).1 *
          call.confidenceFactor / call.currentPrice := not_lt.1 hlarge
      constructor
      · rintro ⟨reason, heq, hpos⟩
        obtain ⟨q, hq, hpair⟩ := Option.map_eq_some_iff.1 heq
        obtain ⟨rfl, -⟩ := Prod.mk.inj hpair
        exact ⟨hcool, hmin, (quantize8_eq_some_pos_iff.1 ⟨hq, hpos⟩).2⟩
      · rintro ⟨-, -, hrest⟩
        have hhalf : 1 / 2 < (capOrder limits (call.candidateNotional limits)).1 *
            call.confidenceFactor / call.currentPrice * 10 ^ 8 := by
          rw [minOrderSize] at hmin
          linarith
        obtain ⟨hq, hpos⟩ := quantize8_eq_some_pos_iff.2 ⟨hhalf, hrest⟩
        rw [hq, Option.map_some]
        exact ⟨_, rfl, hpos⟩

/-- The sizer gives a positive quantity exactly when the order can be sized. -/
theorem computeSize_iff {quantity : ℚ} :
    (∃ reason, computeSize limits call = some (quantity, reason) ∧ 0 < quantity) ↔
      CanBeSized limits call ∧ quantity = orderQuantity limits call := by
  have hleast := isLeast_orderNotional limits call
  have hzero : ∀ {text : String},
      ¬ ∃ reason, some ((0 : ℚ), some text) = some (quantity, reason) ∧ 0 < quantity := by
    rintro text ⟨reason, heq, hpos⟩
    obtain ⟨rfl, -⟩ := Prod.mk.inj (Option.some.inj heq)
    exact lt_irrefl 0 hpos
  unfold computeSize
  split
  next hinvalid =>
    refine iff_of_false hzero fun h => ?_
    rcases hinvalid with hvalue | hprice
    · exact absurd h.1.portfolioValue (not_lt.2 hvalue)
    · exact absurd h.1.currentPrice (not_lt.2 hprice)
  next hvalid =>
    obtain ⟨hvalue, hprice⟩ := not_or.1 hvalid
    rw [not_le] at hvalue hprice
    split
    next hcapital => exact iff_of_false hzero fun h => absurd h.1.capital (not_lt.2 hcapital)
    next hcapital =>
      rw [not_le] at hcapital
      have henough := least_iff_forall hleast (φ := fun b =>
        EnoughToOrder limits (boundedQuantity limits call b))
        fun b c hbc => EnoughToOrder.mono (boundedQuantity_mono hprice hbc)
      have hfits := least_iff_exists hleast (φ := fun b =>
        boundedQuantity limits call b * 10 ^ 8 < 10 ^ 28 - 1 / 2)
        fun b c hbc hc => by linarith [@boundedQuantity_mono limits call hprice b c hbc]
      have hrisk := least_iff_exists hleast (φ := fun b =>
        b * limits.stopLossPct ≤ call.availableCapital * limits.riskPerTradePct)
        fun b c hbc hc =>
          (mul_le_mul_of_nonneg_right hbc limits.stopLossPct_pos.le).trans hc
      cases hsize : limits.positionSizeUsd with
      | some size =>
          rw [computeFixedNotional_iff hsize, henough, hfits, hrisk]
          constructor
          · rintro ⟨hr, he, hf, rfl⟩
            exact ⟨⟨hvalue, hprice, hcapital, fun _ => hr, by simp [hsize], he, hf⟩, rfl⟩
          · rintro ⟨h, rfl⟩
            exact ⟨h.risk (by simp [hsize]), h.enough, h.fits, rfl⟩
      | none =>
          rw [computeAdaptive_iff hsize, henough, hfits]
          constructor
          · rintro ⟨hh, he, hf, rfl⟩
            exact ⟨⟨hvalue, hprice, hcapital, by simp [hsize], fun _ => hh, he, hf⟩, rfl⟩
          · rintro ⟨h, rfl⟩
            exact ⟨h.heat hsize, h.enough, h.fits, rfl⟩

end Bounds

end Sgr
