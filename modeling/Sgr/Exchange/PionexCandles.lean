import Sgr.Backtesting.SeriesGaps
import Sgr.Exchange.PionexOrders

/-!
# Candles of Pionex

`get_ohlcv` of `sgr/exchanges/pionex.py` without ccxt, and that of `sgr/exchanges/pionex_client.py`
below it. The start that the caller asks for is handed on as the end of the request, so the answer
has the last bars before it and none after it.
-/

open Collection

namespace Sgr

/-- What the fields of a bar are read as: nothing when one is missing or is not a number, and no
candle when the high is below the low. -/
inductive KlineFields
  | unreadable
  | inverted
  | ohlcv (fields : Ohlcv)

/-- A bar of an answer, with its time in milliseconds. -/
structure Kline where
  time : ℤ
  fields : KlineFields

/-- The candle of a bar. -/
def Kline.bar? (k : Kline) : Option HistoryBar :=
  match k.fields with
  | .ohlcv fields => some ⟨fields, k.time * 1000⟩
  | _ => none

/-- The bar makes no candle. -/
def Kline.isInverted (k : Kline) : Bool :=
  match k.fields with
  | .inverted => true
  | _ => false

/-- The parameters of a request to `/api/v1/market/klines`. -/
structure KlinesRequest where
  symbol : List Char
  interval : String
  limit : ℤ
  endTime : Option ℤ

/-- How a call fails: there is no connection, an argument is refused with a `ValueError`, the
request fails, or a candle is not valid. -/
inductive KlinesError
  | notConnected
  | refused (text : String)
  | failed (e : PionexError)
  | invalidCandle

/-- `KLINE_INTERVALS`. -/
def klineIntervals : List (String × String) :=
  [("1m", "1M"), ("5m", "5M"), ("15m", "15M"), ("30m", "30M"), ("1h", "60M"), ("4h", "4H"),
    ("8h", "8H"), ("12h", "12H"), ("1d", "1D"), ("1w", "1W"), ("1mo", "1m")]

/-- `KLINE_INTERVALS.get(interval.lower())`. -/
def klineInterval (interval : String) : Option String := klineIntervals.lookup interval.toLower

/-- The text of an interval that is not supported. -/
def unsupportedIntervalText (interval : String) : String :=
  "Unsupported interval '" ++ interval ++ "'. Supported intervals: " ++
    ", ".intercalate (klineIntervals.map Prod.fst)

section Client

variable (klines : KlinesRequest → Except PionexError (List Kline))

/-- `PionexClient.get_ohlcv`. -/
def clientOhlcv (symbol : List Char) (interval : String) (limit : ℤ) (endTime : Option ℤ) :
    Except KlinesError (List Kline) :=
  match klineInterval interval with
  | none => .error (.refused (unsupportedIntervalText interval))
  | some pionexInterval =>
      if 1 ≤ limit ∧ limit ≤ 500 then
        if ∃ time ∈ endTime, time ≤ 0 then .error (.refused "end_time must be greater than 0")
        else (klines ⟨symbol, pionexInterval, limit, endTime⟩).mapError .failed
      else .error (.refused "limit must be between 1 and 500")

/-- The candles of an answer in the order of their times. -/
def candlesOf (rows : List Kline) : Except KlinesError (List HistoryBar) :=
  if rows.any Kline.isInverted then .error .invalidCandle
  else .ok (byTime HistoryBar.timestamp (rows.filterMap Kline.bar?))

/-- The candles of a call, with the symbol and the timeframe that they all have. -/
structure PionexCandles where
  symbol : Symbol
  timeframe : String
  bars : List HistoryBar

/-- `PionexAdapter.get_ohlcv` without ccxt; `since` is in microseconds. -/
def PionexAdapter.getOhlcv (a : PionexAdapter) (symbol timeframe : String) (since : Option ℤ)
    (limit : ℤ) : Except KlinesError PionexCandles :=
  if a.connected then
    let pionexSymbol := toPionexSymbol symbol a.futuresMode
    let sym := fromPionexSymbol a.upper pionexSymbol .pionex
      (if a.futuresMode then .futures else .spot)
    let endTime := since.map fun t => t / 1000
    (clientOhlcv klines pionexSymbol timeframe (min limit 500) endTime).bind fun raw =>
      (candlesOf raw).map fun bars => ⟨sym, timeframe, bars⟩
  else .error .notConnected

end Client

/-! ### Bars from a time on -/

/-- What is assumed of the endpoint: it returns the latest bars of a market up to the limit, of
those that do not open after the end of the request, in some order. -/
structure ServesLatest (klines : KlinesRequest → Except PionexError (List Kline))
    (history : List Char → String → List Kline) : Prop where
  ascends : ∀ symbol interval, StrictlyAscends Kline.time (history symbol interval)
  answers : ∀ request rows, klines request = .ok rows →
    rows.Perm (((history request.symbol request.interval).filter fun k =>
      ∀ time ∈ request.endTime, k.time ≤ time).rtake request.limit.toNat)

section Since

variable (klines : KlinesRequest → Except PionexError (List Kline))
  (history : List Char → String → List Kline)

/-- The latest bars that are not after a time, as many as a call can have. -/
def PionexAdapter.latestUpTo (a : PionexAdapter) (symbol interval : String) (since limit : ℤ) :
    List Kline :=
  ((history (toPionexSymbol symbol a.futuresMode) interval).filter fun k =>
    k.time ≤ since / 1000).rtake (min limit 500).toNat

/-- The request of a call. -/
def PionexAdapter.klinesRequest (a : PionexAdapter) (symbol interval : String)
    (since limit : ℤ) : KlinesRequest :=
  ⟨toPionexSymbol symbol a.futuresMode, interval, min limit 500, some (since / 1000)⟩

/-- The call is answered: its arguments are accepted and the endpoint returns valid bars. -/
structure PionexAdapter.IsAnswered (a : PionexAdapter) (symbol timeframe : String)
    (since limit : ℤ) (interval : String) (rows : List Kline) : Prop where
  connected : a.connected = true
  supported : klineInterval timeframe = some interval
  limit_pos : 1 ≤ limit
  since_pos : 0 < since / 1000
  answer : klines (a.klinesRequest symbol interval since limit) = .ok rows
  valid : ∀ k ∈ rows, k.isInverted = false

variable {klines history} {a : PionexAdapter} {symbol timeframe interval : String}
  {since limit : ℤ} {rows : List Kline} {answer : PionexCandles}

theorem candlesOf_eq_ok_iff {bars : List HistoryBar} : candlesOf rows = .ok bars ↔
    (∀ k ∈ rows, k.isInverted = false) ∧
      bars = byTime HistoryBar.timestamp (rows.filterMap Kline.bar?) := by
  unfold candlesOf
  by_cases hany : rows.any Kline.isInverted = true
  · rw [if_pos hany]
    obtain ⟨k, hk, hinverted⟩ := List.any_eq_true.1 hany
    refine iff_of_false (fun h => by cases h) fun h => ?_
    rw [h.1 k hk] at hinverted
    cases hinverted
  · rw [if_neg hany]
    have hvalid : ∀ k ∈ rows, k.isInverted = false := by simpa using hany
    simp only [Except.ok.injEq, and_iff_right hvalid]
    exact eq_comm

theorem clientOhlcv_eq_ok_iff {name : List Char} {endTime : Option ℤ} :
    clientOhlcv klines name timeframe limit endTime = .ok rows ↔
      ∃ interval, klineInterval timeframe = some interval ∧ (1 ≤ limit ∧ limit ≤ 500) ∧
        (∀ time ∈ endTime, 0 < time) ∧ klines ⟨name, interval, limit, endTime⟩ = .ok rows := by
  unfold clientOhlcv
  cases hinterval : klineInterval timeframe with
  | none => simp
  | some interval =>
      simp only [Option.some.injEq, exists_eq_left']
      by_cases hlimit : 1 ≤ limit ∧ limit ≤ 500
      · by_cases hend : ∃ time ∈ endTime, time ≤ 0
        · have hnot : ¬ ∀ time ∈ endTime, 0 < time := by
            obtain ⟨time, htime, hle⟩ := hend
            exact fun hall => (hall time htime).not_ge hle
          simp only [hlimit, hend, hnot, and_self, if_true, false_and, and_false, reduceCtorEq]
        · have hall : ∀ time ∈ endTime, 0 < time := fun time htime =>
            not_le.1 fun hle => hend ⟨time, htime, hle⟩
          rw [if_pos hlimit, if_neg hend, and_iff_right hlimit, and_iff_right hall]
          exact mapError_eq_ok_iff
      · simp only [hlimit, if_false, false_and, reduceCtorEq]

/-- What an answered call returns. -/
theorem getOhlcv_eq_ok_iff : a.getOhlcv klines symbol timeframe (some since) limit = .ok answer ↔
    ∃ interval rows, a.IsAnswered klines symbol timeframe since limit interval rows ∧
      answer = ⟨fromPionexSymbol a.upper (toPionexSymbol symbol a.futuresMode) .pionex
        (if a.futuresMode then .futures else .spot), timeframe,
        byTime HistoryBar.timestamp (rows.filterMap Kline.bar?)⟩ := by
  unfold PionexAdapter.getOhlcv
  by_cases hconnected : a.connected = true
  · rw [if_pos hconnected, bind_eq_ok_iff]
    constructor
    · rintro ⟨rows, hrows, hanswer⟩
      obtain ⟨interval, hinterval, ⟨hone, -⟩, hend, hrows⟩ := clientOhlcv_eq_ok_iff.1 hrows
      obtain ⟨bars, hbars, rfl⟩ := map_eq_ok_iff.1 hanswer
      obtain ⟨hvalid, rfl⟩ := candlesOf_eq_ok_iff.1 hbars
      exact ⟨interval, rows, ⟨hconnected, hinterval, by omega, hend _ rfl, hrows, hvalid⟩, rfl⟩
    · rintro ⟨interval, rows, hanswered, rfl⟩
      have hone := hanswered.limit_pos
      have hend : ∀ time ∈ (some since).map fun t => t / 1000, 0 < time := by
        intro time htime
        cases htime
        exact hanswered.since_pos
      exact ⟨rows, clientOhlcv_eq_ok_iff.2
          ⟨interval, hanswered.supported, ⟨by omega, by omega⟩, hend, hanswered.answer⟩,
        map_eq_ok_iff.2 ⟨_, candlesOf_eq_ok_iff.2 ⟨hanswered.valid, rfl⟩, rfl⟩⟩
  · rw [if_neg hconnected]
    refine iff_of_false (fun h => by cases h) ?_
    rintro ⟨interval, rows, hanswered, -⟩
    exact hconnected hanswered.connected

/-- The bars of an answered call are the latest of the history up to the start. -/
theorem mem_rows_iff (hserves : ServesLatest klines history)
    (h : a.IsAnswered klines symbol timeframe since limit interval rows) (k : Kline) :
    k ∈ rows ↔ k ∈ a.latestUpTo history symbol interval since limit := by
  rw [(hserves.answers _ _ h.answer).mem_iff]
  simp [PionexAdapter.klinesRequest, PionexAdapter.latestUpTo]

/-- None of the candles that a call returns opens after its start. -/
theorem le_since_of_mem (hserves : ServesLatest klines history)
    (h : a.getOhlcv klines symbol timeframe (some since) limit = .ok answer) {c : HistoryBar}
    (hc : c ∈ answer.bars) : c.timestamp ≤ since := by
  obtain ⟨interval, rows, hanswered, rfl⟩ := getOhlcv_eq_ok_iff.1 h
  obtain ⟨k, hk, hbar⟩ := List.mem_filterMap.1 (mem_byTime.1 hc)
  rw [mem_rows_iff hserves hanswered] at hk
  have hle : k.time ≤ since / 1000 :=
    of_decide_eq_true (List.mem_filter.1 (mem_of_mem_rtake hk)).2
  unfold Kline.bar? at hbar
  split at hbar
  · cases hbar
    change k.time * 1000 ≤ since
    omega
  · cases hbar

/-- A call returns only candles from its start on exactly if it is not answered, or no readable
bar before the start is among the latest ones up to it. -/
theorem since_le_iff (hserves : ServesLatest klines history) (a : PionexAdapter)
    (symbol timeframe : String) (since limit : ℤ) :
    (∀ answer, a.getOhlcv klines symbol timeframe (some since) limit = .ok answer →
        ∀ c ∈ answer.bars, since ≤ c.timestamp) ↔
      ∀ interval rows, a.IsAnswered klines symbol timeframe since limit interval rows →
        ∀ k ∈ a.latestUpTo history symbol interval since limit, ∀ c, k.bar? = some c →
          since ≤ c.timestamp := by
  constructor
  · intro h interval rows hanswered k hk c hbar
    refine h _ (getOhlcv_eq_ok_iff.2 ⟨interval, rows, hanswered, rfl⟩) c (mem_byTime.2 ?_)
    exact List.mem_filterMap.2 ⟨k, (mem_rows_iff hserves hanswered k).2 hk, hbar⟩
  · intro h answer hanswer c hc
    obtain ⟨interval, rows, hanswered, rfl⟩ := getOhlcv_eq_ok_iff.1 hanswer
    obtain ⟨k, hk, hbar⟩ := List.mem_filterMap.1 (mem_byTime.1 hc)
    exact h interval rows hanswered k ((mem_rows_iff hserves hanswered k).1 hk) c hbar

end Since

/-- The bar of an hour. -/
def hourKline (hour : ℤ) : Kline := ⟨hour * 3600000, .ohlcv (HistoryBar.atSecond 0).toOhlcv⟩

/-- The bars of three hours. -/
def threeHours (_ : List Char) (_ : String) : List Kline := [1, 2, 3].map hourKline

/-- The bars of a history up to the end of a request. -/
def latestOf (history : List Char → String → List Kline) (request : KlinesRequest) :
    Except PionexError (List Kline) :=
  .ok (((history request.symbol request.interval).filter fun k =>
    ∀ time ∈ request.endTime, k.time ≤ time).rtake request.limit.toNat)

theorem servesLatest_threeHours : ServesLatest (latestOf threeHours) threeHours where
  ascends _ _ := by
    rw [threeHours]
    decide
  answers request rows h := by
    cases h
    exact .refl _

/-- A connected adapter for PAPER spot. -/
def PionexAdapter.spot : PionexAdapter where
  tradingMode := .paper
  futuresMode := false
  connected := true
  limits := {}
  upper := .ascii

/-- Only one bar is asked for. -/
theorem since_le_iff_oneBar :
    (∀ answer, PionexAdapter.spot.getOhlcv (latestOf threeHours) "BTC/USDT" "1h"
        (some (2 * 3600 * microseconds)) 1 = .ok answer →
      ∀ c ∈ answer.bars, 2 * 3600 * microseconds ≤ c.timestamp) ↔
      ∀ interval rows, PionexAdapter.spot.IsAnswered (latestOf threeHours) "BTC/USDT" "1h"
          (2 * 3600 * microseconds) 1 interval rows →
        ∀ k ∈ PionexAdapter.spot.latestUpTo threeHours "BTC/USDT" interval
            (2 * 3600 * microseconds) 1, ∀ c, k.bar? = some c →
          2 * 3600 * microseconds ≤ c.timestamp :=
  since_le_iff servesLatest_threeHours .spot "BTC/USDT" "1h" (2 * 3600 * microseconds) 1

/-- From the bar of the second hour on, that of the first one is returned. -/
theorem not_since_le :
    ¬ ∀ (klines : KlinesRequest → Except PionexError (List Kline))
      (history : List Char → String → List Kline), ServesLatest klines history →
      ∀ (a : PionexAdapter) (symbol timeframe : String) (since limit : ℤ) (answer : PionexCandles),
        a.getOhlcv klines symbol timeframe (some since) limit = .ok answer →
          ∀ c ∈ answer.bars, since ≤ c.timestamp := by
  intro h
  have hanswered : PionexAdapter.spot.IsAnswered (latestOf threeHours) "BTC/USDT" "1h"
      (2 * 3600 * microseconds) 10 "60M" ([1, 2].map hourKline) :=
    { connected := rfl
      supported := by decide +kernel
      limit_pos := by decide
      since_pos := by decide
      answer := rfl
      valid := by decide }
  have hle := h _ _ servesLatest_threeHours _ _ _ _ _ _
    (getOhlcv_eq_ok_iff.2 ⟨_, _, hanswered, rfl⟩) _
    (mem_byTime.2 (List.mem_filterMap.2 ⟨hourKline 1, List.mem_cons_self, rfl⟩))
  revert hle
  decide

end Sgr
