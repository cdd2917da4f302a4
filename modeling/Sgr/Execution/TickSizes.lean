import Mathlib.Data.Nat.Find
import Sgr.Arithmetic.Decimal
import Sgr.Execution.Engine.Basic

/-!
# Tick sizes

`_safe_precision_places` of `sgr/exchanges/ccxt_base.py` turns the precision of a market into a
number of decimal places, and `_quantize_order` of `sgr/execution/engine.py` rounds to these.
A tick such as 0.5 has one decimal place, so what is rounded to a tenth need not be a multiple
of the tick.
-/

open Arithmetic

namespace Sgr

/-- The precision of a market as ccxt reports it: in the mode `TICK_SIZE` a positive decimal
number, its digits with an exponent of ten, otherwise a number of decimal places. A tick has no
more digits than `normalize` keeps. -/
inductive MarketPrecision
  | tickSize (digits : ℕ) (exponent : ℤ) (pos : 0 < digits) (fits : digits < 10 ^ 28)
  | decimalPlaces (places : ℤ)

/-- The number of zeros that `normalize` takes from the end of the digits. -/
def trailingZeros (digits : ℕ) : ℕ := Nat.findGreatest (fun k => 10 ^ k ∣ digits) digits

/-- `_safe_precision_places`. -/
def safePrecisionPlaces : MarketPrecision → ℤ
  | .tickSize digits exponent _ _ =>
      let normalized := exponent + trailingZeros digits
      if normalized < 0 then -normalized else 0
  | .decimalPlaces places => places

/-- The limits of a symbol with the precisions of its market. -/
def SymbolLimits.ofMarket (amount price : MarketPrecision) (bounds : SymbolLimits) :
    SymbolLimits :=
  { bounds with
    amountPrecision := some (safePrecisionPlaces amount)
    pricePrecision := some (safePrecisionPlaces price) }

namespace MarketPrecision

/-- The step of the market: its tick size, or one unit of its last decimal place. -/
def step : MarketPrecision → ℚ
  | tickSize digits exponent _ _ => digits * 10 ^ exponent
  | decimalPlaces places => Sgr.step places

/-- The step that is rounded to. -/
def unit (m : MarketPrecision) : ℚ := Sgr.step (safePrecisionPlaces m)

end MarketPrecision

/-- The amount is what the market takes of the order: multiples of its steps, with a quantity
that is not larger and less than a step smaller, and with a limit price that is not more
aggressive. -/
structure ExactlyQuantized (amount price : MarketPrecision) (o : OrderRequest) (a : Amount) :
    Prop where
  multiple : ∃ k : ℤ, a.quantity = k * amount.step
  le : a.quantity ≤ o.quantity
  lt : o.quantity < a.quantity + amount.step
  limitPrice : ∀ limit ∈ o.limitPrice, ∃ p, a.limitPrice = some p ∧
    (∃ k : ℤ, p = k * price.step) ∧ (o.side = .buy → p ≤ limit) ∧ (o.side = .sell → limit ≤ p)

/-- The quantity is less than one unit of the last decimal place above a multiple of its step,
and so is the limit price of a `BUY` order; that of a `SELL` order is less than one unit below a
multiple. -/
structure NearMultiples (amount price : MarketPrecision) (o : OrderRequest) : Prop where
  quantity : ∃ k : ℤ, k * amount.step ≤ o.quantity ∧
    o.quantity < k * amount.step + amount.unit
  buy : o.side = .buy → ∀ limit ∈ o.limitPrice, ∃ k : ℤ,
    k * price.step ≤ limit ∧ limit < k * price.step + price.unit
  sell : o.side = .sell → ∀ limit ∈ o.limitPrice, ∃ k : ℤ,
    k * price.step - price.unit < limit ∧ limit ≤ k * price.step

section Steps

variable {m amount price : MarketPrecision} {o : OrderRequest} {x : ℚ}

theorem ratCeil_eq (x : ℚ) : x.ceil = ⌈x⌉ :=
  eq_of_forall_ge_iff fun n => by rw [Rat.ceil_le_iff, Int.ceil_le]

theorem step_pos (places : ℤ) : 0 < step places := zpow_pos (by norm_num) (-places)

theorem unit_pos (m : MarketPrecision) : 0 < m.unit := step_pos (safePrecisionPlaces m)

theorem pow_trailingZeros_dvd (digits : ℕ) : 10 ^ trailingZeros digits ∣ digits :=
  Nat.findGreatest_spec (P := fun k => 10 ^ k ∣ digits) (Nat.zero_le digits) (by simp)

/-- The step of a market is a multiple of the unit that is rounded to. -/
theorem exists_step_eq (m : MarketPrecision) : ∃ n : ℤ, m.step = n * m.unit := by
  cases m with
  | decimalPlaces places => exact ⟨1, (one_mul _).symm.trans (by norm_cast)⟩
  | tickSize digits exponent pos fits =>
      obtain ⟨d, hd⟩ := pow_trailingZeros_dvd digits
      have hstep : (MarketPrecision.tickSize digits exponent pos fits).step =
          d * (10 : ℚ) ^ (exponent + trailingZeros digits) := by
        have hcast : (digits : ℚ) = 10 ^ trailingZeros digits * d := by exact_mod_cast hd
        rw [MarketPrecision.step, hcast, zpow_add₀ (by norm_num), zpow_natCast]
        ring
      rw [hstep, MarketPrecision.unit, safePrecisionPlaces, step]
      by_cases hneg : exponent + trailingZeros digits < 0
      · exact ⟨d, by rw [if_pos hneg, neg_neg, Int.cast_natCast]⟩
      · obtain ⟨e, he⟩ := Int.eq_ofNat_of_zero_le (not_lt.1 hneg)
        refine ⟨d * 10 ^ e, ?_⟩
        rw [if_neg hneg, he, zpow_natCast]
        simp

theorem MarketPrecision.step_pos : 0 < m.step := by
  cases m with
  | decimalPlaces places => exact Sgr.step_pos places
  | tickSize digits exponent pos fits =>
      have hdigits : (0 : ℚ) < digits := by exact_mod_cast pos
      exact mul_pos hdigits (zpow_pos (by norm_num) exponent)

/-- A step has at least one unit. -/
theorem unit_le_step (m : MarketPrecision) : m.unit ≤ m.step := by
  obtain ⟨n, hn⟩ := exists_step_eq m
  have hpos : 0 < (n : ℚ) := pos_of_mul_pos_left (hn ▸ m.step_pos) (unit_pos m).le
  have hone : (1 : ℚ) ≤ n := by exact_mod_cast (by exact_mod_cast hpos : 0 < n)
  rw [hn]
  exact le_mul_of_one_le_left (unit_pos m).le hone

/-- What is rounded down to the decimal places is a multiple of the step exactly when it was
near above one. -/
theorem roundDown_multiple_iff (hx : 0 < x) :
    (∃ k : ℤ, roundDown (safePrecisionPlaces m) x = k * m.step) ↔
      ∃ k : ℤ, k * m.step ≤ x ∧ x < k * m.step + m.unit := by
  obtain ⟨n, hn⟩ := exists_step_eq m
  rw [roundDown, if_pos hx.le, hn]
  exact floor_mul_multiple_iff (unit_pos m) n

/-- What is rounded up to the decimal places is a multiple of the step exactly when it was near
below one. -/
theorem roundUp_multiple_iff (hx : 0 < x) :
    (∃ k : ℤ, roundUp (safePrecisionPlaces m) x = k * m.step) ↔
      ∃ k : ℤ, k * m.step - m.unit < x ∧ x ≤ k * m.step := by
  obtain ⟨n, hn⟩ := exists_step_eq m
  rw [roundUp, if_pos hx.le, ratCeil_eq, hn]
  exact ceil_mul_multiple_iff (unit_pos m) n

theorem roundDown_le (places : ℤ) (hx : 0 < x) : roundDown places x ≤ x := by
  rw [roundDown, if_pos hx.le, ← le_div_iff₀ (step_pos places)]
  exact Int.floor_le (x / step places)

theorem lt_roundDown_add (places : ℤ) (hx : 0 < x) : x < roundDown places x + step places := by
  have hlt := (div_lt_iff₀ (step_pos places)).1 (Int.lt_floor_add_one (x / step places))
  rw [roundDown, if_pos hx.le]
  rw [add_mul, one_mul] at hlt
  exact hlt

theorem le_roundUp (places : ℤ) (hx : 0 < x) : x ≤ roundUp places x := by
  rw [roundUp, if_pos hx.le, ratCeil_eq, ← div_le_iff₀ (step_pos places)]
  exact Int.le_ceil (x / step places)

/-- A quantity that passes has been rounded down. -/
theorem quantizeAndValidate_ofMarket {quantity p q : ℚ} {bounds : SymbolLimits}
    (h : quantizeAndValidate quantity p (some (.ofMarket amount price bounds)) = (q, none)) :
    q = roundDown (safePrecisionPlaces amount) quantity := by
  grind [quantizeAndValidate, SymbolLimits.ofMarket]

/-- The direction in which a limit price is rounded. -/
def roundedFor (side : Side) (m : MarketPrecision) (p : ℚ) : ℚ :=
  match side with
  | .buy => roundDown (safePrecisionPlaces m) p
  | .sell => roundUp (safePrecisionPlaces m) p

/-- A limit price that passes has been rounded. -/
theorem quantizePrice_ofMarket {limit p : ℚ} {side : Side} {bounds : SymbolLimits}
    (h : quantizePrice limit side (some (.ofMarket amount price bounds)) = (p, none)) :
    p = roundedFor side price limit := by
  cases side with
  | buy =>
      unfold quantizePrice at h
      grind [SymbolLimits.ofMarket, roundedFor]
  | sell =>
      unfold quantizePrice at h
      grind [SymbolLimits.ofMarket, roundedFor]

/-- An order that is quantised has its quantity and its limit price rounded. -/
theorem quantizeOrder_ofMarket {info : ExchangeInfo} {ticker : Except String Ticker} {p : ℚ}
    {bounds : SymbolLimits} {a : Amount}
    (hlimits : info.symbolLimits o.symbol.ccxtSymbol = some (.ofMarket amount price bounds))
    (hprice : verificationPrice o ticker = .ok p)
    (h : quantizeOrder o (.ok info) ticker = (a, none)) :
    a.quantity = roundDown (safePrecisionPlaces amount) o.quantity ∧
      a.limitPrice = o.limitPrice.map (roundedFor o.side price) := by
  simp only [quantizeOrder, hlimits, hprice] at h
  split at h
  next => simp at h
  next q hquantity =>
    have hq := quantizeAndValidate_ofMarket hquantity
    split at h
    next hnone =>
      cases h
      exact ⟨hq, by rw [hnone]; rfl⟩
    next limit hlimit =>
      split at h
      next => simp at h
      next rounded hrounded =>
        cases h
        exact ⟨hq, by rw [hlimit, quantizePrice_ofMarket hrounded]; rfl⟩

/-- A quantised quantity is exact when the requested one was near above a multiple. -/
theorem exactQuantity_iff (hx : 0 < x) :
    ((∃ k : ℤ, roundDown (safePrecisionPlaces m) x = k * m.step) ∧
      roundDown (safePrecisionPlaces m) x ≤ x ∧
      x < roundDown (safePrecisionPlaces m) x + m.step) ↔
      ∃ k : ℤ, k * m.step ≤ x ∧ x < k * m.step + m.unit := by
  rw [roundDown_multiple_iff hx]
  refine and_iff_left ⟨roundDown_le _ hx, ?_⟩
  have hlt := lt_roundDown_add (safePrecisionPlaces m) hx
  have hunit := unit_le_step m
  rw [MarketPrecision.unit] at hunit
  linarith

/-- A rounded limit price is exact when the requested one was near a multiple on the side that
it is rounded to. -/
theorem exactLimit_iff {side : Side} (hx : 0 < x) :
    ((∃ k : ℤ, roundedFor side m x = k * m.step) ∧
      (side = .buy → roundedFor side m x ≤ x) ∧ (side = .sell → x ≤ roundedFor side m x)) ↔
      (side = .buy → ∃ k : ℤ, k * m.step ≤ x ∧ x < k * m.step + m.unit) ∧
        (side = .sell → ∃ k : ℤ, k * m.step - m.unit < x ∧ x ≤ k * m.step) := by
  cases side with
  | buy =>
      have hle := roundDown_le (safePrecisionPlaces m) hx
      simp [roundedFor, roundDown_multiple_iff hx, hle]
  | sell =>
      have hle := le_roundUp (safePrecisionPlaces m) hx
      simp [roundedFor, roundUp_multiple_iff hx, hle]

end Steps

section Claim

variable {amount price : MarketPrecision} {o : OrderRequest} {info : ExchangeInfo}
  {ticker : Except String Ticker} {p : ℚ} {bounds : SymbolLimits} {a : Amount}

/-- A quantised order is what the market takes exactly when its quantity and its limit price
were near multiples of the steps. -/
theorem exactlyQuantized_iff
    (hlimits : info.symbolLimits o.symbol.ccxtSymbol = some (.ofMarket amount price bounds))
    (hprice : verificationPrice o ticker = .ok p)
    (hquantity : 0 < o.quantity) (hlimit : ∀ limit ∈ o.limitPrice, 0 < limit)
    (h : quantizeOrder o (.ok info) ticker = (a, none)) :
    ExactlyQuantized amount price o a ↔ NearMultiples amount price o := by
  obtain ⟨hq, hl⟩ := quantizeOrder_ofMarket hlimits hprice h
  have hexact := exactQuantity_iff (m := amount) hquantity
  constructor
  · rintro ⟨hmultiple, hle, hlt, hlimits⟩
    rw [hq] at hmultiple hle hlt
    have hlimit' (limit : ℚ) (hmem : limit ∈ o.limitPrice) :
        (o.side = .buy → ∃ k : ℤ, k * price.step ≤ limit ∧ limit < k * price.step + price.unit) ∧
          (o.side = .sell →
            ∃ k : ℤ, k * price.step - price.unit < limit ∧ limit ≤ k * price.step) := by
      obtain ⟨r, hr, hrest⟩ := hlimits limit hmem
      rw [hl, Option.mem_def.1 hmem, Option.map_some, Option.some.injEq] at hr
      rw [← hr] at hrest
      exact (exactLimit_iff (hlimit limit hmem)).1 hrest
    exact ⟨hexact.1 ⟨hmultiple, hle, hlt⟩, fun hside limit hmem => (hlimit' limit hmem).1 hside,
      fun hside limit hmem => (hlimit' limit hmem).2 hside⟩
  · rintro ⟨hnear, hbuy, hsell⟩
    obtain ⟨hmultiple, hle, hlt⟩ := hexact.2 hnear
    rw [← hq] at hmultiple hle hlt
    refine ⟨hmultiple, hle, hlt, fun limit hmem => ⟨roundedFor o.side price limit, ?_, ?_⟩⟩
    · rw [hl, Option.mem_def.1 hmem, Option.map_some]
    · exact (exactLimit_iff (hlimit limit hmem)).2
        ⟨fun hside => hbuy hside limit hmem, fun hside => hsell hside limit hmem⟩

/-- A market whose steps are units of its last decimal place takes every order that is
quantised. -/
theorem nearMultiples_of_unit_eq (hamount : amount.unit = amount.step)
    (hprice : price.unit = price.step) (o : OrderRequest) : NearMultiples amount price o := by
  have hfloor (m : MarketPrecision) (x : ℚ) : ⌊x / m.step⌋ * m.step ≤ x ∧
      x < ⌊x / m.step⌋ * m.step + m.step := by
    have hlt := (div_lt_iff₀ m.step_pos).1 (Int.lt_floor_add_one (x / m.step))
    exact ⟨(le_div_iff₀ m.step_pos).1 (Int.floor_le (x / m.step)), by linarith⟩
  have hceil (m : MarketPrecision) (x : ℚ) : ⌈x / m.step⌉ * m.step - m.step < x ∧
      x ≤ ⌈x / m.step⌉ * m.step := by
    have hlt := (lt_div_iff₀ m.step_pos).1
      (sub_lt_iff_lt_add.2 (Int.ceil_lt_add_one (x / m.step)))
    exact ⟨by linarith, (div_le_iff₀ m.step_pos).1 (Int.le_ceil (x / m.step))⟩
  constructor
  · rw [hamount]
    exact ⟨_, hfloor amount o.quantity⟩
  · intro _ limit _
    rw [hprice]
    exact ⟨_, hfloor price limit⟩
  · intro _ limit _
    rw [hprice]
    exact ⟨_, hceil price limit⟩

end Claim

/-- A tick size of five units of a decimal place. -/
def MarketPrecision.five (exponent : ℤ) : MarketPrecision :=
  .tickSize 5 exponent (by decide) (by decide)

/-- An exchange where all symbols have the tick 0.5 and the quantity step 0.005. -/
def ExchangeInfo.halfTicks : ExchangeInfo where
  exchangeId := .binance
  symbols := ["BTC/USDT"]
  symbolLimits := fun _ => some (.ofMarket (.five (-3)) (.five (-1)) {})

/-- A limit order of the examples. -/
def OrderRequest.limitBuy (limit : ℚ) : OrderRequest :=
  { OrderRequest.market 1 .buy 1 .live with orderType := .limit, limitPrice := some limit }

theorem exactlyQuantized_iff_halfTicks :
    ExactlyQuantized (.five (-3)) (.five (-1)) (.limitBuy (201 / 2)) ⟨1, some (201 / 2)⟩ ↔
      NearMultiples (.five (-3)) (.five (-1)) (.limitBuy (201 / 2)) :=
  have hquantized : quantizeOrder (.limitBuy (201 / 2)) (.ok .halfTicks) (.error "") =
      (⟨1, some (201 / 2)⟩, none) := by decide +kernel
  exactlyQuantized_iff rfl rfl (by decide) (by simp [OrderRequest.limitBuy]) hquantized

/-- At the tick 0.5 a limit of 100.3 stays as it is. -/
theorem not_exactlyQuantized :
    ¬ ∀ (amount price : MarketPrecision) (o : OrderRequest) (info : ExchangeInfo)
      (ticker : Except String Ticker) (p : ℚ) (bounds : SymbolLimits) (a : Amount),
      info.symbolLimits o.symbol.ccxtSymbol = some (.ofMarket amount price bounds) →
      verificationPrice o ticker = .ok p →
      0 < o.quantity → (∀ limit ∈ o.limitPrice, 0 < limit) →
      quantizeOrder o (.ok info) ticker = (a, none) → ExactlyQuantized amount price o a := by
  intro h
  have hexact := h (.five (-3)) (.five (-1)) (.limitBuy (1003 / 10)) .halfTicks (.error "")
    (1003 / 10) {} ⟨1, some (1003 / 10)⟩ rfl rfl (by decide) (by simp [OrderRequest.limitBuy])
    (by decide +kernel)
  obtain ⟨p, hp, ⟨k, hk⟩, -⟩ := hexact.limitPrice (1003 / 10) rfl
  rw [← Option.some.inj hp] at hk
  have htick : (MarketPrecision.five (-1)).step = 1 / 2 := by
    norm_num [MarketPrecision.step, MarketPrecision.five]
  rw [htick] at hk
  have hcast : (1003 : ℚ) = ((5 * k : ℤ) : ℚ) := by
    push_cast
    linarith
  have hint : (1003 : ℤ) = 5 * k := by exact_mod_cast hcast
  omega

end Sgr
