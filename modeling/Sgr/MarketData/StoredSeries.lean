import Sgr.Collection.Series
import Sgr.MarketData.StorageKeys

/-!
# Stored series that pass for complete

`_load_from_db_if_complete` looks at the first and at the last of the stored rows of a range,
and at none in between. It returns a series with a gap exactly when the rows between them have
one.
-/

open Collection

namespace Sgr

/-- The candles reach from the start of the range to its end, up to one bar, and each of them
opens one timeframe after the one before. -/
structure IsCompleteSeries (timeframe : String) (start stop : Timestamp) (candles : List Candle) :
    Prop where
  starts : ∃ first, candles.head? = some first ∧
    first.timestamp ≤ start + timeframeToSeconds timeframe
  stops : ∃ last, candles.getLast? = some last ∧
    stop - timeframeToSeconds timeframe ≤ last.timestamp
  gapless : Gapless (timeframeToSeconds timeframe) (candles.map Candle.timestamp)

/-- The rows that the loader reads. -/
def CandleTable.loaderRows (T : CandleTable) (f : SymbolFeed) (start stop : Timestamp) :
    List CandleRow :=
  T.getOhlcv f.symbol f.exchangeId f.timeframe start stop loadLimit

/-- Two of the rows that are read, with none in between, are not one timeframe apart. -/
def CandleTable.HasGap (T : CandleTable) (f : SymbolFeed) (start stop : Timestamp) : Prop :=
  ∃ r ∈ T.loaderRows f start stop, ∃ r' ∈ T.loaderRows f start stop,
    r.timestamp < r'.timestamp ∧
    (∀ q ∈ T.loaderRows f start stop, q.timestamp ≤ r.timestamp ∨ r'.timestamp ≤ q.timestamp) ∧
    r'.timestamp ≠ r.timestamp + timeframeToSeconds f.timeframe

section Rows

variable {cfg : CandleConfig} {T : CandleTable} {f : SymbolFeed} {start stop : Timestamp}
  {candles : List Candle}

/-- The rows of a market have different times. -/
theorem CandleTable.nodup_rowsOf (T : CandleTable) (symbol : String) (exchange : ExchangeID)
    (timeframe : String) :
    ((T.rowsOf symbol exchange timeframe).map CandleRow.timestamp).Nodup := by
  have hkeys : ((T.rowsOf symbol exchange timeframe).map CandleRow.uniqueKey).Nodup :=
    T.uqCandle.sublist (List.filter_sublist.map _)
  refine List.Nodup.of_map (fun t => ((symbol, exchange, timeframe), t)) ?_
  rw [List.map_map]
  convert hkeys using 1
  refine List.map_congr_left fun r hr => ?_
  obtain ⟨rfl, rfl, rfl⟩ := of_decide_eq_true (List.mem_filter.1 hr).2
  rfl

/-- The rows that are read come in the order of their times. -/
theorem CandleTable.strictlyAscends_loaderRows (T : CandleTable) (f : SymbolFeed)
    (start stop : Timestamp) :
    StrictlyAscends CandleRow.timestamp (T.loaderRows f start stop) := by
  refine List.Pairwise.take (strictlyAscends_iff.2 ⟨ascends_byTime _,
    ((byTime_perm _).map CandleRow.timestamp).nodup_iff.2 ?_⟩)
  exact (T.nodup_rowsOf f.symbol f.exchangeId f.timeframe).sublist
    (List.filter_sublist.map CandleRow.timestamp)

/-- The times that are read have no gap exactly if no two neighbours are apart. -/
theorem CandleTable.gapless_iff (T : CandleTable) (f : SymbolFeed) (start stop : Timestamp) :
    Gapless (timeframeToSeconds f.timeframe)
        ((T.loaderRows f start stop).map CandleRow.timestamp) ↔ ¬ T.HasGap f start stop := by
  rw [Collection.gapless_iff (List.pairwise_map.2 (T.strictlyAscends_loaderRows f start stop))]
  simp only [List.forall_mem_map, CandleTable.HasGap]
  push Not
  rfl

theorem map_timestamp_candleOfRow (symbol : Symbol) (timeframe : String) (rows : List CandleRow) :
    (rows.map (candleOfRow symbol timeframe)).map Candle.timestamp =
      rows.map CandleRow.timestamp := by
  rw [List.map_map]
  rfl

/-- A series is returned when the rows reach from end to end and the text is one of a pair. -/
theorem loadFromDbIfComplete_eq_complete_iff :
    loadFromDbIfComplete cfg T f start stop = .complete candles ↔
      coversRange f.timeframe ((T.loaderRows f start stop).map CandleRow.timestamp) start stop ∧
        ∃ symbol, parseSymbolStr cfg.upper f.symbol f.exchangeId = some symbol ∧
          (T.loaderRows f start stop).map (candleOfRow symbol f.timeframe) = candles := by
  rw [loadFromDbIfComplete, ← CandleTable.loaderRows]
  by_cases hcovers : coversRange f.timeframe
      ((T.loaderRows f start stop).map CandleRow.timestamp) start stop = true
  · cases hsymbol : parseSymbolStr cfg.upper f.symbol f.exchangeId with
    | none => simp [hcovers]
    | some symbol => simp [hcovers]
  · simp [hcovers]

/-- Times that reach from end to end are those of candles that do. -/
theorem exists_ends_of_coversRange {timeframe : String}
    (h : coversRange timeframe (candles.map Candle.timestamp) start stop) :
    (∃ first, candles.head? = some first ∧
      first.timestamp ≤ start + timeframeToSeconds timeframe) ∧
    ∃ last, candles.getLast? = some last ∧
      stop - timeframeToSeconds timeframe ≤ last.timestamp := by
  rw [coversRange, List.head?_map, List.getLast?_map] at h
  cases hfirst : candles.head? with
  | none =>
      rw [hfirst] at h
      cases h
  | some first =>
      cases hlast : candles.getLast? with
      | none =>
          rw [hfirst, hlast] at h
          cases h
      | some last =>
          rw [hfirst, hlast] at h
          obtain ⟨hstart, hstop⟩ := Bool.and_eq_true_iff.1 h
          exact ⟨⟨first, rfl, of_decide_eq_true hstart⟩, last, rfl, of_decide_eq_true hstop⟩

/-- A series that is returned is complete exactly if there is no gap between the rows. -/
theorem isCompleteSeries_of_complete_iff
    (h : loadFromDbIfComplete cfg T f start stop = .complete candles) :
    IsCompleteSeries f.timeframe start stop candles ↔ ¬ T.HasGap f start stop := by
  obtain ⟨hcovers, symbol, -, rfl⟩ := loadFromDbIfComplete_eq_complete_iff.1 h
  rw [← T.gapless_iff f start stop, ← map_timestamp_candleOfRow symbol f.timeframe]
  rw [← map_timestamp_candleOfRow symbol f.timeframe] at hcovers
  obtain ⟨hstarts, hstops⟩ := exists_ends_of_coversRange hcovers
  exact ⟨fun hcomplete => hcomplete.gapless, fun hgapless => ⟨hstarts, hstops, hgapless⟩⟩

end Rows

theorem hourRow_low_le_high : (90 : ℚ) ≤ 110 := by decide

/-- A stored candle of an hour. -/
def hourRow (hour : ℤ) : CandleRow where
  symbol := "BTC/USDT"
  exchange := .binance
  timeframe := "1h"
  timestamp := hour * 3600
  openPrice := 100
  high := 110
  low := 90
  closePrice := 105
  volume := 1
  highGteLow := hourRow_low_le_high

/-- The candles of a day without those of the hours from two to twenty. -/
def CandleTable.withGap : CandleTable where
  rows := [0, 1, 21, 22, 23, 24].map hourRow
  uqCandle := by decide +kernel

end Sgr
