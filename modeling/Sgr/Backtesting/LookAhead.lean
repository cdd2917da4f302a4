import Mathlib.Tactic.FieldSimp
import Sgr.Backtesting.CashBalance

/-!
# Looking ahead

A back-test reads the next bar within the iteration of a bar, to enter a position at its open,
and records the equity point of the bar after that. What it has recorded up to a bar is thus a
function of the series up to that bar exactly if no position is entered there.
-/

open Arithmetic Concurrency

namespace Sgr

/-! ### The inputs of a series and of what it begins with -/

section Inputs

variable {sqrt : ℚ → ℚ} {past candles future : List Candle} {bar : Candle} {i : ℕ}

/-- The features of a bar are those of any longer series. -/
theorem features_append (hwarm : warmupBars ≤ i) (hi : i < candles.length) :
    (precomputeAllFeatures sqrt (candles ++ future))[i]?.join =
      (precomputeAllFeatures sqrt candles)[i]?.join := by
  have hmin : minCandles ≤ i + 1 := by
    simp only [minCandles, warmupBars] at hwarm ⊢
    omega
  have hi' : i < (candles ++ future).length := by
    rw [List.length_append]
    omega
  rw [precomputeAllFeatures_getElem? sqrt hi, precomputeAllFeatures_getElem? sqrt hi',
    ← compute_take sqrt hmin hi, ← compute_take sqrt hmin hi',
    List.take_append_of_le_length hi]

/-- Of what follows a bar its input has only the next one. -/
theorem barInput_append (hwarm : warmupBars ≤ i) (hi : i < candles.length) :
    barInput sqrt (candles ++ future) bar i =
      { barInput sqrt candles bar i with next := (candles ++ future)[i + 1]? } := by
  simp only [barInput, features_append hwarm hi, List.take_append_of_le_length hi]

/-- The inputs of the bars before a bar. -/
def pastInputs (sqrt : ℚ → ℚ) (past : List Candle) (bar : Candle) : List BarInput :=
  (past.zipIdx.drop warmupBars).map fun c => barInput sqrt (past ++ [bar]) c.1 c.2

/-- The input of a bar that ends a series. -/
def lastInput (sqrt : ℚ → ℚ) (past : List Candle) (bar : Candle) : BarInput :=
  barInput sqrt (past ++ [bar]) bar past.length

/-- After the warm-up there are features of the last bar. -/
theorem exists_features_lastInput (sqrt : ℚ → ℚ) (bar : Candle)
    (hwarm : warmupBars ≤ past.length) :
    ∃ features, (lastInput sqrt past bar).features = some features := by
  have hmin : minCandles ≤ past.length + 1 := by
    simp only [minCandles, warmupBars] at hwarm ⊢
    omega
  have hlast : past.length < (past ++ [bar]).length := by simp
  rw [lastInput, barInput, precomputeAllFeatures_getElem? sqrt hlast]
  exact Option.isSome_iff_exists.1 (isSome_featureRow hmin)

theorem take_barInputs (hwarm : warmupBars ≤ past.length) :
    (barInputs sqrt (past ++ bar :: future)).take (past.length + 1 - warmupBars) =
      pastInputs sqrt past bar ++ [{ lastInput sqrt past bar with next := future.head? }] := by
  have hsplit : past ++ bar :: future = (past ++ [bar]) ++ future := by simp
  have hindices : ((past ++ bar :: future).zipIdx.drop warmupBars).take
      (past.length + 1 - warmupBars) = past.zipIdx.drop warmupBars ++ [(bar, past.length)] := by
    have hlength : (past.zipIdx.drop warmupBars ++ [(bar, past.length)]).length =
        past.length + 1 - warmupBars := by
      simp only [List.length_append, List.length_drop, List.length_zipIdx, List.length_singleton]
      omega
    have hbar : [bar].zipIdx (0 + past.length) = [(bar, past.length)] := by simp
    rw [hsplit, List.zipIdx_append, List.zipIdx_append, hbar, List.append_assoc,
      List.drop_append_of_le_length (by simpa using hwarm), ← List.append_assoc]
    exact List.take_left' hlength
  have hpast : ∀ c ∈ past.zipIdx.drop warmupBars,
      barInput sqrt (past ++ bar :: future) c.1 c.2 = barInput sqrt (past ++ [bar]) c.1 c.2 := by
    intro c hc
    obtain ⟨n, hn⟩ := List.mem_iff_getElem?.1 hc
    rw [List.getElem?_drop, List.getElem?_zipIdx, zero_add] at hn
    obtain ⟨candle, hcandle, rfl⟩ := Option.map_eq_some_iff.1 hn
    have hlt : warmupBars + n < past.length := (List.getElem?_eq_some_iff.1 hcandle).1
    have hlt' : warmupBars + n + 1 < (past ++ [bar]).length := by
      rw [List.length_append, List.length_singleton]
      omega
    rw [hsplit, barInput_append (Nat.le_add_right _ _) (by omega),
      List.getElem?_append_left hlt']
    rfl
  have hlast : barInput sqrt (past ++ bar :: future) bar past.length =
      { lastInput sqrt past bar with next := future.head? } := by
    have hnext : (past ++ [bar] ++ future)[past.length + 1]? = future.head? := by
      rw [List.getElem?_append_right (by simp)]
      simp [List.head?_eq_getElem?]
    rw [hsplit, barInput_append hwarm (by simp), hnext, lastInput]
  rw [barInputs, ← List.map_take, hindices, List.map_append, List.map_congr_left hpast,
    List.map_singleton, hlast, pastInputs]

end Inputs

namespace BacktestConfig

variable {μ : Type*} (cfg : BacktestConfig) (sqrt : ℚ → ℚ)
  (strategies : List (BacktestStrategy μ)) (m : μ)

/-! ### What is recorded -/

/-- The equity points and the trades of a state. -/
def recorded (s : BacktestState μ) : List EquityCurvePoint × List BacktestTrade :=
  (s.equityCurve, s.closedTrades)

/-- What the loop has recorded after the bar with index `k`; `none` when it raises. -/
def recordedUpTo (candles : List Candle) (k : ℕ) :
    Option (List EquityCurvePoint × List BacktestTrade) :=
  ((cfg.simulator strategies).run (cfg.backtestStart m)
    ((barInputs sqrt candles).take (k + 1 - warmupBars))).map recorded

/-- The value at which a signal is filled by a portfolio without positions. -/
def orderValue (signal : Signal) (cash : ℚ) : ℚ := cfg.notionalOf signal cash cash

/-- A signal opens a position, unless the next open is too high for the least quantity, and
what is recorded shows it: the entry moves cash, or the position has a value at the close. -/
structure FillsAtNextOpen (signal : Signal) (cash close : ℚ) : Prop where
  slipped_ne : cfg.slipped 1 (sideOf signal = .long) ≠ 0
  value_pos : 0 < cfg.orderValue signal cash
  affordable : cfg.orderValue signal cash + cfg.orderValue signal cash * cfg.takerFee ≤ cash
  shown : cfg.entryCash (sideOf signal) (cfg.orderValue signal cash) ≠ 0 ∨ close ≠ 0

/-- At a bar that comes after others a position is entered. -/
def EntersAt (past : List Candle) (bar : Candle) : Prop :=
  warmupBars ≤ past.length ∧ ∃ s s' features signal,
    (cfg.simulator strategies).run (cfg.backtestStart m) (pastInputs sqrt past bar) = some s ∧
    (lastInput sqrt past bar).features = some features ∧
    cfg.afterExits (lastInput sqrt past bar) features s = some s' ∧ s'.position = none ∧
    (generateSignal strategies (contextAt (lastInput sqrt past bar) features)
      (detectRegimeSimple features) s'.memory).2 = some signal ∧
    cfg.FillsAtNextOpen signal s'.cash bar.closePrice

variable {cfg sqrt strategies m} {past future : List Candle} {bar : Candle}
  {s t : BacktestState μ}

theorem recordedUpTo_of_lt (h : past.length < warmupBars) (candles : List Candle) :
    cfg.recordedUpTo sqrt strategies m candles past.length = some ([], []) := by
  rw [recordedUpTo, Nat.sub_eq_zero_of_le h, List.take_zero]
  rfl

/-- Up to a bar the loop runs over the bars before it, the exits of the bar and its entry. -/
theorem recordedUpTo_eq_some_iff (hwarm : warmupBars ≤ past.length) {features : FeatureSet}
    (hfeatures : (lastInput sqrt past bar).features = some features)
    {a : List EquityCurvePoint × List BacktestTrade} :
    cfg.recordedUpTo sqrt strategies m (past ++ bar :: future) past.length = some a ↔
      ∃ s s' t, (cfg.simulator strategies).run (cfg.backtestStart m) (pastInputs sqrt past bar) =
          some s ∧
        cfg.afterExits (lastInput sqrt past bar) features s = some s' ∧
        cfg.checkEntry strategies { lastInput sqrt past bar with next := future.head? }
          (contextAt (lastInput sqrt past bar) features) s' = some t ∧
        recorded (recordBar (lastInput sqrt past bar) t) = a := by
  have hstep (s : BacktestState μ) : (cfg.simulator strategies).next s
      { lastInput sqrt past bar with next := future.head? } =
        (cfg.afterExits (lastInput sqrt past bar) features s).bind fun s' =>
          (cfg.checkEntry strategies { lastInput sqrt past bar with next := future.head? }
            (contextAt (lastInput sqrt past bar) features) s').map
              (recordBar (lastInput sqrt past bar)) :=
    cfg.barStep_of_features hfeatures
  rw [recordedUpTo, take_barInputs hwarm, Machine.run_append]
  simp only [Option.map_eq_some_iff, Option.bind_eq_some_iff, Machine.run_cons_eq_some_iff, hstep,
    Machine.run_nil, Option.some_inj]
  constructor
  · rintro ⟨_, ⟨s, hs, _, ⟨s', hexits, t, hentry, rfl⟩, rfl⟩, rfl⟩
    exact ⟨s, s', t, hs, hexits, hentry, rfl⟩
  · rintro ⟨s, s', t, hs, hexits, hentry, rfl⟩
    exact ⟨_, ⟨s, hs, _, ⟨s', hexits, t, hentry, rfl⟩, rfl⟩, rfl⟩

/-! ### A bar at which no position is entered -/

/-- Two states agree in what a bar with a close records of them. -/
structure RecordsSame (close : ℚ) (s t : BacktestState μ) : Prop where
  cash : t.cash = s.cash
  value : t.portfolioValue close = s.portfolioValue close
  peakValue : t.peakValue = s.peakValue
  equityCurve : t.equityCurve = s.equityCurve
  closedTrades : t.closedTrades = s.closedTrades

theorem RecordsSame.recorded {b : BarInput} (h : RecordsSame b.bar.closePrice s t) :
    recorded (recordBar b t) = recorded (recordBar b s) := by
  simp only [BacktestConfig.recorded, recordBar, BacktestState.recordEquity, h.cash, h.value,
    h.peakValue, h.equityCurve, h.closedTrades]

theorem RecordsSame.refl (close : ℚ) (s : BacktestState μ) : RecordsSame close s s :=
  ⟨rfl, rfl, rfl, rfl, rfl⟩

theorem portfolioValue_of_position_eq_none (h : s.position = none) (price : ℚ) :
    s.portfolioValue price = s.cash := by
  rw [BacktestState.portfolioValue, h, Option.map_none, Option.getD_none, add_zero]

theorem orderValue_nonneg {signal : Signal} {cash : ℚ}
    (h : 0 < cfg.maxNotional cash cash) : 0 ≤ cfg.orderValue signal cash :=
  mul_nonneg (mul_nonneg h.le signal.sizeHint_mem.1) signal.confidence_mem.1

theorem slipped_eq (price : ℚ) (buys : Bool) :
    cfg.slipped price buys = price * cfg.slipped 1 buys := by
  rw [slipped, slipped, one_mul]

/-- A signal that opens no position leaves what is recorded as it is. -/
theorem recordsSame_openPosition {signal : Signal} {entryBar : Candle} {barIndex : ℕ}
    {close : ℚ} (hpos : s.position = none) (hfill : ¬ cfg.FillsAtNextOpen signal s.cash close)
    (h : cfg.openPosition signal entryBar barIndex s = some t) : RecordsSame close s t := by
  have hvalue := portfolioValue_of_position_eq_none hpos entryBar.openPrice
  simp only [openPosition, hvalue] at h
  split at h
  · cases h
    exact .refl close s
  next hmax =>
    split at h
    · cases h
    next hprice =>
      split at h
      · cases h
        exact .refl close s
      next hquantity =>
        split at h
        · cases h
          exact .refl close s
        next hafford =>
          cases h
          have hslipped : cfg.slipped 1 (sideOf signal = .long) ≠ 0 := by
            intro hzero
            rw [openedPosition, slipped_eq, hzero, mul_zero] at hprice
            exact hprice rfl
          have hpositive : 0 < cfg.orderValue signal s.cash := by
            refine (orderValue_nonneg (not_le.1 hmax)).lt_of_ne' fun hzero => hquantity ?_
            rw [orderValue] at hzero
            simp only [openedPosition, hzero, zero_div]
            norm_num
          have hshown : ¬ (cfg.entryCash (sideOf signal) (cfg.orderValue signal s.cash) ≠ 0 ∨
              close ≠ 0) := fun h => hfill ⟨hslipped, hpositive, not_lt.1 hafford, h⟩
          rw [not_or, not_not, not_not] at hshown
          obtain ⟨hcash, rfl⟩ := hshown
          have hcash' : s.cash + cfg.entryCash (sideOf signal) (cfg.orderValue signal s.cash) =
              s.cash := by rw [hcash, add_zero]
          refine ⟨hcash', ?_, rfl, rfl, rfl⟩
          rw [portfolioValue_of_position_eq_none hpos]
          refine Eq.trans ?_ hcash'
          simp [BacktestState.portfolioValue, SimulatedPosition.marketValue, openedPosition,
            orderValue]

/-- Where no position is entered the entry leaves what is recorded as it is. -/
theorem recordsSame_checkEntry {b : BarInput} {context : MarketContext} {close : ℚ}
    (hfill : s.position = none → ∀ signal,
      (generateSignal strategies context context.regime s.memory).2 = some signal →
        ¬ cfg.FillsAtNextOpen signal s.cash close)
    (h : cfg.checkEntry strategies b context s = some t) : RecordsSame close s t := by
  rw [checkEntry] at h
  split at h
  · cases h
    exact .refl close s
  next hpos =>
    dsimp only at h
    split at h
    next signal nextBar hsignal _ =>
      have hsame : RecordsSame close
          { s with memory := (generateSignal strategies context context.regime s.memory).1 } t :=
        recordsSame_openPosition hpos (hfill hpos signal hsignal) h
      exact ⟨hsame.cash, hsame.value, hsame.peakValue, hsame.equityCurve, hsame.closedTrades⟩
    · cases h
      exact ⟨rfl, rfl, rfl, rfl, rfl⟩

theorem recordedUpTo_eq_of_not_entersAt (h : ¬ cfg.EntersAt sqrt strategies m past bar)
    {xs ys : List Candle} {a b : List EquityCurvePoint × List BacktestTrade}
    (ha : cfg.recordedUpTo sqrt strategies m (past ++ bar :: xs) past.length = some a)
    (hb : cfg.recordedUpTo sqrt strategies m (past ++ bar :: ys) past.length = some b) :
    a = b := by
  by_cases hwarm : warmupBars ≤ past.length
  · obtain ⟨features, hfeatures⟩ := exists_features_lastInput sqrt bar hwarm
    obtain ⟨s, s', t, hs, hexits, hentry, rfl⟩ :=
      (recordedUpTo_eq_some_iff hwarm hfeatures).1 ha
    obtain ⟨s₂, s₂', t₂, hs₂, hexits₂, hentry₂, rfl⟩ :=
      (recordedUpTo_eq_some_iff hwarm hfeatures).1 hb
    rw [hs] at hs₂
    cases hs₂
    rw [hexits] at hexits₂
    cases hexits₂
    have hfill : s'.position = none → ∀ signal, (generateSignal strategies
        (contextAt (lastInput sqrt past bar) features) (detectRegimeSimple features)
        s'.memory).2 = some signal → ¬ cfg.FillsAtNextOpen signal s'.cash bar.closePrice :=
      fun hpos signal hsignal hfill =>
        h ⟨hwarm, s, s', features, signal, hs, hfeatures, hexits, hpos, hsignal, hfill⟩
    have hsame : RecordsSame (lastInput sqrt past bar).bar.closePrice s' t :=
      recordsSame_checkEntry hfill hentry
    have hsame₂ : RecordsSame (lastInput sqrt past bar).bar.closePrice s' t₂ :=
      recordsSame_checkEntry hfill hentry₂
    rw [hsame.recorded, hsame₂.recorded]
  · have hearly := not_le.1 hwarm
    rw [recordedUpTo_of_lt hearly] at ha hb
    cases ha
    cases hb
    rfl

/-! ### A bar at which a position is entered -/

/-- A bar with another open. -/
def withOpen (bar : Candle) (price : ℚ) : Candle := { bar with openPrice := price }

theorem checkEntry_of_signal {b : BarInput} {context : MarketContext} {signal : Signal}
    {nextBar : Candle} (hpos : s.position = none)
    (hsignal : (generateSignal strategies context context.regime s.memory).2 = some signal)
    (hnext : b.next = some nextBar) :
    cfg.checkEntry strategies b context s = cfg.openPosition signal nextBar b.barIdx
      { s with memory := (generateSignal strategies context context.regime s.memory).1 } := by
  simp only [checkEntry, hsignal, hnext]
  split
  next hposition =>
    rw [hpos] at hposition
    cases hposition
  · rfl

section Opens

variable {signal : Signal} {close : ℚ}

theorem FillsAtNextOpen.maxNotional_pos (h : cfg.FillsAtNextOpen signal s.cash close) :
    0 < cfg.maxNotional s.cash s.cash := by
  by_contra hmax
  have hvalue : cfg.orderValue signal s.cash ≤ 0 :=
    mul_nonpos_of_nonpos_of_nonneg (mul_nonpos_of_nonpos_of_nonneg (not_lt.1 hmax)
      signal.sizeHint_mem.1) signal.confidence_mem.1
  exact absurd h.value_pos (not_lt.2 hvalue)

/-- The next open can have any entry price. -/
theorem FillsAtNextOpen.entryPrice (h : cfg.FillsAtNextOpen signal s.cash close) (price : ℚ) :
    cfg.slipped (price / cfg.slipped 1 (sideOf signal = .long)) (sideOf signal = .long) =
      price := by
  rw [slipped_eq, div_mul_cancel₀ price h.slipped_ne]

/-- At an entry price a position of the value of the signal is opened, if the quantity is not too
small. -/
theorem FillsAtNextOpen.openPosition (h : cfg.FillsAtNextOpen signal s.cash close)
    (hpos : s.position = none) (bar : Candle) (barIndex : ℕ) {price : ℚ} (hprice : price ≠ 0) :
    ∃ pos : SimulatedPosition, pos.quantity = cfg.orderValue signal s.cash / price ∧
      pos.side = sideOf signal ∧
      cfg.openPosition signal (withOpen bar (price / cfg.slipped 1 (sideOf signal = .long)))
          barIndex s =
        if cfg.orderValue signal s.cash / price ≤ 1 / 100000 then some s
        else some { s with
          cash := s.cash + cfg.entryCash (sideOf signal) (cfg.orderValue signal s.cash)
          position := some pos } := by
  refine ⟨cfg.openedPosition signal
    (withOpen bar (price / cfg.slipped 1 (sideOf signal = .long))) barIndex
    (cfg.orderValue signal s.cash), ?_, rfl, ?_⟩
  · rw [openedPosition, withOpen, h.entryPrice]
  · have hvalue := portfolioValue_of_position_eq_none hpos
    have hentry (notional : ℚ) : (cfg.openedPosition signal
        (withOpen bar (price / cfg.slipped 1 (sideOf signal = .long))) barIndex
        notional).entryPrice ≠ 0 := by
      rw [openedPosition, withOpen, h.entryPrice]
      exact hprice
    have hquantity (notional : ℚ) : (cfg.openedPosition signal
        (withOpen bar (price / cfg.slipped 1 (sideOf signal = .long))) barIndex
        notional).quantity = notional / price := by
      rw [openedPosition, withOpen, h.entryPrice]
    have hafford : ¬ s.cash < cfg.notionalOf signal s.cash s.cash +
        cfg.notionalOf signal s.cash s.cash * cfg.takerFee := not_lt.2 h.affordable
    simp only [BacktestConfig.openPosition, hvalue, if_neg (not_le.2 h.maxNotional_pos),
      if_neg (hentry _), hquantity, if_neg hafford]
    rfl

end Opens

/-- A state that has entered a position records something else than one that has not. -/
theorem recorded_ne {b : BarInput} {pos : SimulatedPosition} {cash : ℚ}
    (hpos : s.position = none) (hshown : cash ≠ 0 ∨ b.bar.closePrice ≠ 0)
    (hquantity : b.bar.closePrice ≠ 0 → 1 ≤ |pos.quantity * b.bar.closePrice|) :
    recorded (recordBar b s) ≠
      recorded (recordBar b { s with cash := s.cash + cash, position := some pos }) := by
  intro hsame
  have hcurve := (Prod.mk.inj hsame).1
  have hpoint := (List.cons.inj (List.append_cancel_left hcurve)).1
  have hcash : s.cash = s.cash + cash := congrArg EquityCurvePoint.cash hpoint
  have hzero : cash = 0 := by linarith
  have hclose := hshown.resolve_left (not_not.2 hzero)
  have hopen : Arithmetic.quantized 2 (s.portfolioValue b.bar.closePrice - s.cash) =
      Arithmetic.quantized 2 (s.cash + cash + pos.marketValue b.bar.closePrice - (s.cash + cash)) :=
    congrArg EquityCurvePoint.openPositionsValue hpoint
  rw [portfolioValue_of_position_eq_none hpos, sub_self, add_sub_cancel_left] at hopen
  have hmarket : |pos.marketValue b.bar.closePrice| = |pos.quantity * b.bar.closePrice| := by
    rw [SimulatedPosition.marketValue]
    split
    · rfl
    · rw [abs_neg]
  have hvalue : 1 / 2 < |pos.marketValue b.bar.closePrice| * 10 ^ 2 := by
    have hlarge := hquantity hclose
    rw [hmarket]
    linarith
  exact quantized_ne_zero hvalue (hopen.symm.trans (by decide +kernel))

/-- Where a position is entered, what is recorded depends on the next open. -/
theorem exists_recordedUpTo_ne (h : cfg.EntersAt sqrt strategies m past bar) :
    ∃ x y : Candle, ∃ a b,
      cfg.recordedUpTo sqrt strategies m (past ++ bar :: [x]) past.length = some a ∧
      cfg.recordedUpTo sqrt strategies m (past ++ bar :: [y]) past.length = some b ∧ a ≠ b := by
  obtain ⟨hwarm, s, s', features, signal, hs, hfeatures, hexits, hpos, hsignal, hfill⟩ := h
  have hvalue := hfill.value_pos
  -- a quantity that is large enough for the least quantity and for a visible value
  obtain ⟨quantity, hlarge, hvisible⟩ : ∃ quantity : ℚ, 1 ≤ quantity ∧
      (bar.closePrice ≠ 0 → 1 ≤ |quantity * bar.closePrice|) := by
    refine ⟨max 1 (1 / |bar.closePrice|), le_max_left _ _, fun hclose => ?_⟩
    rw [abs_mul, abs_of_pos (lt_max_of_lt_left one_pos), ← div_le_iff₀ (abs_pos.2 hclose)]
    exact le_max_right _ _
  have hquantity : 0 < quantity := one_pos.trans_le hlarge
  obtain ⟨t, ht⟩ : ∃ t : BacktestState μ, t = { s' with
      memory := (generateSignal strategies (contextAt (lastInput sqrt past bar) features)
        (detectRegimeSimple features) s'.memory).1 } := ⟨_, rfl⟩
  have htpos : t.position = none := by rw [ht]; exact hpos
  have htcash : t.cash = s'.cash := by rw [ht]
  rw [← htcash] at hfill hvalue
  have hentry (price : ℚ) : cfg.checkEntry strategies
      { lastInput sqrt past bar with next := some (withOpen bar price) }
      (contextAt (lastInput sqrt past bar) features) s' =
        cfg.openPosition signal (withOpen bar price) past.length t := by
    rw [ht]
    exact checkEntry_of_signal hpos hsignal rfl
  obtain ⟨pos, hpq, -, hopens⟩ := hfill.openPosition htpos bar past.length
    (div_pos hvalue hquantity).ne'
  obtain ⟨_, -, -, hstays⟩ := hfill.openPosition htpos bar past.length
    (mul_pos hvalue (by norm_num : (0 : ℚ) < 100000)).ne'
  rw [div_div_cancel₀ hvalue.ne'] at hpq hopens
  rw [if_neg (by linarith)] at hopens
  rw [div_mul_cancel_left₀ hvalue.ne', if_pos (by norm_num)] at hstays
  rw [← hentry] at hopens hstays
  refine ⟨_, _, _, _, (recordedUpTo_eq_some_iff hwarm hfeatures).2
      ⟨s, s', t, hs, hexits, hstays, rfl⟩,
    (recordedUpTo_eq_some_iff hwarm hfeatures).2 ⟨s, s', _, hs, hexits, hopens, rfl⟩,
    recorded_ne htpos hfill.shown ?_⟩
  rw [hpq]
  exact hvisible

/-! ### Records are kept -/

theorem barStep_records {b : BarInput} (hfeatures : b.features.isSome)
    (h : cfg.barStep strategies s b = some t) :
    ∃ point, t.equityCurve = s.equityCurve ++ [point] ∧ s.closedTrades <+: t.closedTrades := by
  obtain ⟨features, hsome⟩ := Option.isSome_iff_exists.1 hfeatures
  rw [cfg.barStep_of_features hsome] at h
  obtain ⟨s₁, hexits, hrest⟩ := Option.bind_eq_some_iff.1 h
  obtain ⟨s₂, hentry, rfl⟩ := Option.map_eq_some_iff.1 hrest
  have hkept₁ : s₁.equityCurve = s.equityCurve ∧ s.closedTrades <+: s₁.closedTrades := by
    rcases checkExits_cases hexits with rfl | ⟨pos, reason, -, hclose⟩
    · exact ⟨rfl, List.prefix_rfl⟩
    · rw [eq_of_closePosition hclose]
      exact ⟨rfl, List.prefix_append _ _⟩
  have hkept₂ : s₂.equityCurve = s₁.equityCurve ∧ s₂.closedTrades = s₁.closedTrades := by
    rcases checkEntry_cases hentry with rfl | ⟨m', -, rfl | ⟨signal, nextBar, hopen⟩⟩
    · exact ⟨rfl, rfl⟩
    · exact ⟨rfl, rfl⟩
    · rcases openPosition_cases hopen with rfl | ⟨pos, rfl⟩
      · exact ⟨rfl, rfl⟩
      · exact ⟨rfl, rfl⟩
  have hcurve : s₂.equityCurve = s.equityCurve := hkept₂.1.trans hkept₁.1
  have htrades : s.closedTrades <+: s₂.closedTrades := hkept₂.2 ▸ hkept₁.2
  rw [← hcurve]
  exact ⟨_, rfl, htrades⟩

/-- A loop adds a point for each bar and removes no trade. -/
theorem run_records {bs : List BarInput} (hfeatures : ∀ b ∈ bs, b.features.isSome)
    (h : (cfg.simulator strategies).run s bs = some t) :
    ∃ points, t.equityCurve = s.equityCurve ++ points ∧ points.length = bs.length ∧
      s.closedTrades <+: t.closedTrades := by
  induction bs generalizing s with
  | nil =>
      cases h
      exact ⟨[], by simp⟩
  | cons b bs ih =>
      obtain ⟨r, hr, hrun⟩ := (Machine.run_cons_eq_some_iff _).1 h
      obtain ⟨point, hpoint, htrades⟩ := barStep_records (hfeatures b List.mem_cons_self) hr
      obtain ⟨points, hpoints, hlength, hmore⟩ :=
        ih (fun b' hb' => hfeatures b' (List.mem_cons_of_mem b hb')) hrun
      refine ⟨point :: points, ?_, ?_, htrades.trans hmore⟩
      · rw [hpoints, hpoint, List.append_assoc, List.singleton_append]
      · rw [List.length_cons, hlength, List.length_cons]

/-- What has been recorded after a bar stands at the beginning of what is returned. -/
theorem recordedUpTo_of_run {symbol : String} {candlesBySymbol : String → List Candle}
    {r : BacktestOutcome} {k : ℕ} (hsymbol : cfg.symbols.head? = some symbol)
    (hk : k < (candlesBySymbol symbol).length)
    (hrun : cfg.run sqrt strategies m candlesBySymbol = some r) :
    ∃ trades, cfg.recordedUpTo sqrt strategies m (candlesBySymbol symbol) k =
        some (r.equityCurve.take (k + 1 - warmupBars), trades) ∧ trades <+: r.trades := by
  obtain ⟨symbol', s, t, hsymbol', hloop, hclose, rfl⟩ := run_eq_some_iff.1 hrun
  rw [hsymbol] at hsymbol'
  cases hsymbol'
  rw [← List.take_append_drop (k + 1 - warmupBars) (barInputs sqrt (candlesBySymbol symbol)),
    Machine.run_append] at hloop
  obtain ⟨s₁, hfirst, hrest⟩ := Option.bind_eq_some_iff.1 hloop
  obtain ⟨points, hpoints, hlength, -⟩ :=
    run_records (fun b hb => isSome_features (List.mem_of_mem_take hb)) hfirst
  obtain ⟨points', hpoints', -, htrades⟩ :=
    run_records (fun b hb => isSome_features (List.mem_of_mem_drop hb)) hrest
  obtain ⟨hcurve, hmore⟩ := records_closeAtEnd hclose
  refine ⟨s₁.closedTrades, ?_, htrades.trans hmore⟩
  have htake : t.equityCurve.take (k + 1 - warmupBars) = s₁.equityCurve := by
    have hinputs : (barInputs sqrt (candlesBySymbol symbol)).length =
        (candlesBySymbol symbol).length - warmupBars := by
      simp [barInputs]
    have hpoints₁ : s₁.equityCurve = points := by
      rw [hpoints]
      exact List.nil_append _
    rw [hcurve, hpoints', hpoints₁]
    refine List.take_left' ?_
    rw [hlength, List.length_take, hinputs]
    omega
  rw [recordedUpTo, hfirst, Option.map_some, recorded]
  exact congrArg (fun curve => some (curve, s₁.closedTrades)) htake.symm

/-- Series that begin with the same bars: what a back-test has recorded up to the last of them is
the same for all exactly if no position is entered at it. -/
theorem recordedUpTo_eq_iff (cfg : BacktestConfig) (sqrt : ℚ → ℚ)
    (strategies : List (BacktestStrategy μ)) (m : μ) (past : List Candle) (bar : Candle) :
    (∀ (symbol : String) (candlesBySymbol : String → List Candle) (future : List Candle)
        (r : BacktestOutcome), cfg.symbols.head? = some symbol →
        candlesBySymbol symbol = past ++ bar :: future →
        cfg.run sqrt strategies m candlesBySymbol = some r →
        ∃ trades, trades <+: r.trades ∧
          cfg.recordedUpTo sqrt strategies m (past ++ bar :: future) past.length =
            some (r.equityCurve.take (past.length + 1 - warmupBars), trades)) ∧
    ((∀ xs ys : List Candle, xs ≠ [] → ys ≠ [] → ∀ a b,
        cfg.recordedUpTo sqrt strategies m (past ++ bar :: xs) past.length = some a →
        cfg.recordedUpTo sqrt strategies m (past ++ bar :: ys) past.length = some b → a = b) ↔
      ¬ cfg.EntersAt sqrt strategies m past bar) := by
  refine ⟨fun symbol candlesBySymbol future r hsymbol hcandles hrun => ?_, ?_, ?_⟩
  · obtain ⟨trades, hrecorded, hstart⟩ := recordedUpTo_of_run (k := past.length) hsymbol
      (by rw [hcandles]; simp) hrun
    rw [hcandles] at hrecorded
    exact ⟨trades, hstart, hrecorded⟩
  · intro h henters
    obtain ⟨x, y, a, b, ha, hb, hne⟩ := exists_recordedUpTo_ne henters
    exact hne (h [x] [y] (List.cons_ne_nil _ _) (List.cons_ne_nil _ _) a b ha hb)
  · intro h xs ys _ _ a b ha hb
    exact recordedUpTo_eq_of_not_entersAt h ha hb

end BacktestConfig

/-- The strategy that always buys enters a position at the first bar after the warm-up. -/
theorem entersAt_alwaysBuys :
    BacktestConfig.btc.EntersAt Rat.sqrt [alwaysBuys] () ((List.range 200).map flatCandle)
      (flatCandle 200) := by
  have hwarm : warmupBars ≤ ((List.range 200).map flatCandle).length := by simp [warmupBars]
  obtain ⟨features, hfeatures⟩ := exists_features_lastInput Rat.sqrt (flatCandle 200) hwarm
  have hpast : pastInputs Rat.sqrt ((List.range 200).map flatCandle) (flatCandle 200) = [] := by
    rw [pastInputs, List.drop_eq_nil_of_le (by simp [warmupBars]), List.map_nil]
  have hfills : BacktestConfig.btc.FillsAtNextOpen buySignal
      (BacktestConfig.btc.backtestStart ()).cash 100 :=
    ⟨by decide +kernel, by decide +kernel, by decide +kernel, .inr (by decide +kernel)⟩
  refine ⟨hwarm, BacktestConfig.btc.backtestStart (), BacktestConfig.btc.backtestStart (),
    features, buySignal, ?_, hfeatures, rfl, rfl, ?_, hfills⟩
  · rw [hpast, Machine.run_nil]
  · exact congrArg Prod.snd (generateSignal_alwaysBuys _)

theorem not_recordedUpTo_eq :
    ¬ ∀ (cfg : BacktestConfig) (sqrt : ℚ → ℚ) (strategies : List (BacktestStrategy Unit))
      (past : List Candle) (bar : Candle) (xs ys : List Candle), xs ≠ [] → ys ≠ [] → ∀ a b,
        cfg.recordedUpTo sqrt strategies () (past ++ bar :: xs) past.length = some a →
        cfg.recordedUpTo sqrt strategies () (past ++ bar :: ys) past.length = some b → a = b := by
  intro h
  obtain ⟨x, y, a, b, ha, hb, hne⟩ := BacktestConfig.exists_recordedUpTo_ne entersAt_alwaysBuys
  exact hne (h .btc Rat.sqrt [alwaysBuys] _ _ [x] [y] (List.cons_ne_nil _ _)
    (List.cons_ne_nil _ _) a b ha hb)

end Sgr
