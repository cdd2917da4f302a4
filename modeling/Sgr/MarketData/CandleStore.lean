import Mathlib.Algebra.Order.Ring.Rat
import Sgr.Collection.FirstWrites
import Sgr.Exchange.SymbolNames

/-!
# Stored candles

A feed writes the candles of its adapter to the `candles` table, under the text of their
symbol; it reads them when it starts, and the backtest loader reads them, under the text of
the market.
-/

open Collection

namespace Sgr

/-- What a `Numeric(28, 8)` column keeps of a number. -/
structure NumericColumn where
  keep : ℚ → ℚ
  monotone : Monotone keep
  keep_keep : ∀ x, keep (keep x) = keep x

/-- The process that reads and writes candles. -/
structure CandleConfig where
  upper : UpperCase
  column : NumericColumn
  /-- `futures_mode` of the Pionex adapter, when it works without ccxt. -/
  pionexNative : Option Bool := none

/-! ### The table -/

/-- A row of the `candles` table. -/
structure CandleRow where
  symbol : String
  exchange : ExchangeID
  timeframe : String
  timestamp : Timestamp
  openPrice : ℚ
  high : ℚ
  low : ℚ
  closePrice : ℚ
  volume : ℚ
  highGteLow : low ≤ high

/-- `uq_candle`. -/
def CandleRow.uniqueKey (r : CandleRow) : (String × ExchangeID × String) × Timestamp :=
  ((r.symbol, r.exchange, r.timeframe), r.timestamp)

/-- The `candles` table. -/
structure CandleTable where
  rows : List CandleRow
  uqCandle : (rows.map CandleRow.uniqueKey).Nodup

/-- The table before the first write. -/
def CandleTable.empty : CandleTable := ⟨[], List.nodup_nil⟩

/-- The row that `upsert_batch` writes for a candle. -/
def candleRow (cfg : CandleConfig) (c : Candle) : CandleRow where
  symbol := c.symbol.ccxtSymbol
  exchange := c.symbol.exchange
  timeframe := c.timeframe
  timestamp := c.timestamp
  openPrice := cfg.column.keep c.openPrice
  high := cfg.column.keep c.high
  low := cfg.column.keep c.low
  closePrice := cfg.column.keep c.closePrice
  volume := cfg.column.keep c.volume
  highGteLow := cfg.column.monotone c.highGteLow

/-- `INSERT ... ON CONFLICT DO NOTHING`. -/
def CandleTable.insert (cfg : CandleConfig) (T : CandleTable) (candles : List Candle) :
    CandleTable where
  rows := insertAll CandleRow.uniqueKey T.rows (candles.map (candleRow cfg))
  uqCandle := nodup_insertAll T.uqCandle _

/-- `_CHUNK_SIZE`. -/
def chunkSize : ℕ := 3000

/-- `candles[i : i + _CHUNK_SIZE]` for each `i` of `range(0, len(candles), _CHUNK_SIZE)`. -/
def chunks (candles : List Candle) : List (List Candle) :=
  (List.range ((candles.length + (chunkSize - 1)) / chunkSize)).map fun i =>
    (candles.drop (i * chunkSize)).take chunkSize

/-- `upsert_batch`, and whether it raises. Each chunk is committed on its own; `fails` says
which of them the database refuses. -/
def upsertChunks (cfg : CandleConfig) (fails : ℕ → Bool) :
    ℕ → List (List Candle) → CandleTable → CandleTable × Bool
  | _, [], T => (T, false)
  | n, chunk :: rest, T =>
      if fails n then (T, true) else upsertChunks cfg fails (n + 1) rest (T.insert cfg chunk)

/-- `_persist_candles`: an exception is logged. -/
def persistCandles (cfg : CandleConfig) (fails : ℕ → Bool) (candles : List Candle)
    (T : CandleTable) : CandleTable :=
  if candles.isEmpty then T else (upsertChunks cfg fails 0 (chunks candles) T).1

/-- The rows of a market in a timeframe. -/
def CandleTable.rowsOf (T : CandleTable) (symbol : String) (exchange : ExchangeID)
    (timeframe : String) : List CandleRow :=
  T.rows.filter fun r => r.symbol = symbol ∧ r.exchange = exchange ∧ r.timeframe = timeframe

/-- `get_ohlcv` of the repository. -/
def CandleTable.getOhlcv (T : CandleTable) (symbol : String) (exchange : ExchangeID)
    (timeframe : String) (start stop : Timestamp) (limit : ℕ) : List CandleRow :=
  selectRange CandleRow.timestamp start stop limit (T.rowsOf symbol exchange timeframe)

/-- `get_latest_timestamp`. -/
def CandleTable.getLatestTimestamp (T : CandleTable) (symbol : String) (exchange : ExchangeID)
    (timeframe : String) : Option Timestamp :=
  ((T.rowsOf symbol exchange timeframe).map CandleRow.timestamp).max?

/-- A row with the symbol that a reader gives it. -/
def candleOfRow (symbol : Symbol) (timeframe : String) (r : CandleRow) : Candle where
  symbol := symbol
  timestamp := r.timestamp
  timeframe := timeframe
  openPrice := r.openPrice
  high := r.high
  low := r.low
  closePrice := r.closePrice
  volume := r.volume
  highGteLow := r.highGteLow

/-! ### The feed -/

/-- What a `SymbolFeed` is the feed of. -/
@[ext] structure SymbolFeed where
  symbol : String
  timeframe : String
  exchangeId : ExchangeID
  deriving DecidableEq

/-- `_HISTORY_REQUIRED`, with the default of the feed. -/
def historyRequired (timeframe : String) : ℕ :=
  if timeframe = "4h" ∨ timeframe = "1d" then 200 else 250

/-- `timeframe_to_seconds`. -/
def timeframeToSeconds : String → ℕ
  | "1m" => 60
  | "3m" => 180
  | "5m" => 300
  | "15m" => 900
  | "30m" => 1800
  | "1h" => 3600
  | "2h" => 7200
  | "4h" => 14400
  | "6h" => 21600
  | "8h" => 28800
  | "12h" => 43200
  | "1d" => 86400
  | "1w" => 604800
  | _ => 3600

namespace SymbolFeed

/-- `_max_buffer`. -/
def maxBuffer (f : SymbolFeed) : ℕ := historyRequired f.timeframe

/-- `_history_window`. -/
def historyWindow (f : SymbolFeed) : ℤ := timeframeToSeconds f.timeframe * f.maxBuffer

/-- `_db_symbol_str`. -/
def dbSymbolStr (f : SymbolFeed) : String := f.symbol

/-- `_row_to_candle`. -/
def rowToCandle (cfg : CandleConfig) (f : SymbolFeed) (r : CandleRow) : Candle :=
  candleOfRow (symbolOfText cfg.upper f.symbol f.exchangeId) f.timeframe r

/-- The stored candles that `initialize` reads. -/
def dbCandles (cfg : CandleConfig) (f : SymbolFeed) (T : CandleTable) (now : Timestamp) :
    List Candle :=
  match T.getLatestTimestamp f.dbSymbolStr f.exchangeId f.timeframe with
  | none => []
  | some latest =>
      (T.getOhlcv f.dbSymbolStr f.exchangeId f.timeframe (latest - f.historyWindow) now
        f.maxBuffer).map (f.rowToCandle cfg)

end SymbolFeed

/-! ### The backtest loader -/

/-- How `_load_from_db_if_complete` ends. -/
inductive LoadedCandles
  | complete (candles : List Candle)
  | incomplete
  | raises
  deriving DecidableEq

/-- The times reach from the start to the end, up to one bar. -/
def coversRange (timeframe : String) (times : List Timestamp) (start stop : Timestamp) : Bool :=
  match times.head?, times.getLast? with
  | some first, some last =>
      first ≤ start + timeframeToSeconds timeframe && stop - timeframeToSeconds timeframe ≤ last
  | _, _ => false

/-- The limit of the read of the loader. -/
def loadLimit : ℕ := 100000

/-- `_load_from_db_if_complete`. -/
def loadFromDbIfComplete (cfg : CandleConfig) (T : CandleTable) (f : SymbolFeed)
    (start stop : Timestamp) : LoadedCandles :=
  let rows := T.getOhlcv f.symbol f.exchangeId f.timeframe start stop loadLimit
  if coversRange f.timeframe (rows.map CandleRow.timestamp) start stop then
    match parseSymbolStr cfg.upper f.symbol f.exchangeId with
    | none => .raises
    | some symbol => .complete (rows.map (candleOfRow symbol f.timeframe))
  else .incomplete

/-! ### What is persisted -/

/-- The candles of the chunks that are written. -/
def writtenChunks (fails : ℕ → Bool) : ℕ → List (List Candle) → List Candle
  | _, [] => []
  | n, chunk :: rest => if fails n then [] else chunk ++ writtenChunks fails (n + 1) rest

/-- Candles that a feed gets from its adapter and hands to `_persist_candles`. Those that it has
read from the table before are there already. -/
structure CandleBatch (cfg : CandleConfig) where
  feed : SymbolFeed
  symbol : Symbol
  parsed : adapterSymbol cfg.upper cfg.pionexNative feed.symbol feed.exchangeId = some symbol
  candles : List Candle
  ofFeed : ∀ c ∈ candles, c.symbol = symbol ∧ c.timeframe = feed.timeframe
  fails : ℕ → Bool := fun _ => false

/-- The candles of a batch that are written. -/
def CandleBatch.written {cfg : CandleConfig} (b : CandleBatch cfg) : List Candle :=
  writtenChunks b.fails 0 (chunks b.candles)

/-- The table after the batches. -/
def persistAll (cfg : CandleConfig) (bs : List (CandleBatch cfg)) (T : CandleTable) :
    CandleTable :=
  bs.foldl (fun T b => persistCandles cfg b.fails b.candles T) T

/-- The candles that a feed has persisted: of each time the first one. -/
def persisted {cfg : CandleConfig} (bs : List (CandleBatch cfg)) (f : SymbolFeed) : List Candle :=
  insertAll Candle.timestamp [] ((bs.filter fun b => b.feed = f).flatMap CandleBatch.written)

end Sgr
