import Sgr.MarketData.CandleStore

/-!
# The keys of stored candles

The candles of a market are found again, under the key that the readers use, exactly when the
market is one of the spot market and the columns keep the numbers. The candles of a perpetual
market are written under the key of the spot market of the same pair.
-/

open Collection

namespace Sgr

/-- The columns that the candles of a feed are stored under. -/
def SymbolFeed.storageKey (cfg : CandleConfig) (f : SymbolFeed) : Option (String × ExchangeID) :=
  (adapterSymbol cfg.upper cfg.pionexNative f.symbol f.exchangeId).map fun s =>
    (s.ccxtSymbol, s.exchange)

/-- The stored candles that the feed should read when it starts. -/
def SymbolFeed.recentCandles (f : SymbolFeed) (candles : List Candle) (now : Timestamp) :
    List Candle :=
  match (candles.map Candle.timestamp).max? with
  | none => []
  | some latest =>
      selectRange Candle.timestamp (latest - f.historyWindow) now f.maxBuffer candles

/-- What the loader should get. -/
def completeCandles (timeframe : String) (candles : List Candle) (start stop : Timestamp) :
    LoadedCandles :=
  let selected := selectRange Candle.timestamp start stop loadLimit candles
  if coversRange timeframe (selected.map Candle.timestamp) start stop then .complete selected
  else .incomplete

/-- After the batches, each feed and the loader read exactly the candles that were persisted
for the market, and no two markets with candles share a key. -/
structure StoresApart (cfg : CandleConfig) (bs : List (CandleBatch cfg)) : Prop where
  keys : ∀ f f' : SymbolFeed, persisted bs f ≠ [] → persisted bs f' ≠ [] →
    f.storageKey cfg = f'.storageKey cfg → f.symbol = f'.symbol ∧ f.exchangeId = f'.exchangeId
  feed : ∀ (f : SymbolFeed) (now : Timestamp), f.dbCandles cfg (persistAll cfg bs .empty) now =
    f.recentCandles (persisted bs f) now
  loader : ∀ (f : SymbolFeed) (start stop : Timestamp),
    loadFromDbIfComplete cfg (persistAll cfg bs .empty) f start stop =
      completeCandles f.timeframe (persisted bs f) start stop

/-- The columns keep the numbers of a candle. -/
structure Candle.IsKept (cfg : CandleConfig) (c : Candle) : Prop where
  openPrice : cfg.column.keep c.openPrice = c.openPrice
  high : cfg.column.keep c.high = c.high
  low : cfg.column.keep c.low = c.low
  closePrice : cfg.column.keep c.closePrice = c.closePrice
  volume : cfg.column.keep c.volume = c.volume

/-- The feed is one of a spot market. -/
def SymbolFeed.IsSpot (cfg : CandleConfig) (f : SymbolFeed) : Prop :=
  IsSpotText cfg.upper cfg.pionexNative f.symbol f.exchangeId

section Table

variable {cfg : CandleConfig} {bs : List (CandleBatch cfg)} {f : SymbolFeed} {c : Candle}

/-! ### What the batches write -/

theorem mem_chunks {candles chunk : List Candle} (h : chunk ∈ chunks candles) :
    chunk ⊆ candles := by
  obtain ⟨i, -, rfl⟩ := List.mem_map.1 h
  exact fun c hc => List.mem_of_mem_drop (List.mem_of_mem_take hc)

/-- The chunks of a batch are the whole batch. -/
theorem flatten_chunks (candles : List Candle) : (chunks candles).flatten = candles := by
  have htake : ∀ n, ((List.range n).map fun i =>
      (candles.drop (i * chunkSize)).take chunkSize).flatten = candles.take (n * chunkSize) := by
    intro n
    induction n with
    | zero => simp
    | succ n ih =>
        rw [List.range_succ, List.map_append, List.flatten_append, ih, List.map_singleton,
          List.flatten_singleton, ← List.take_add, Nat.succ_mul]
  rw [chunks, htake]
  refine List.take_of_length_le ?_
  unfold chunkSize
  omega

theorem mem_writtenChunks {fails : ℕ → Bool} {n : ℕ} {cs : List (List Candle)}
    (h : c ∈ writtenChunks fails n cs) : ∃ chunk ∈ cs, c ∈ chunk := by
  induction cs generalizing n with
  | nil => cases h
  | cons chunk cs ih =>
      rw [writtenChunks] at h
      split at h
      next => cases h
      next =>
        rcases List.mem_append.1 h with h | h
        · exact ⟨chunk, List.mem_cons_self, h⟩
        · obtain ⟨chunk', hmem, hc⟩ := ih h
          exact ⟨chunk', List.mem_cons_of_mem chunk hmem, hc⟩

theorem writtenChunks_of_not_fails {fails : ℕ → Bool} (h : ∀ n, fails n = false) (n : ℕ)
    (cs : List (List Candle)) : writtenChunks fails n cs = cs.flatten := by
  induction cs generalizing n with
  | nil => rfl
  | cons chunk cs ih =>
      rw [writtenChunks, h n, if_neg Bool.false_ne_true, ih, List.flatten_cons]

namespace CandleBatch

variable {b : CandleBatch cfg}

theorem mem_candles_of_mem_written (h : c ∈ b.written) : c ∈ b.candles := by
  obtain ⟨chunk, hmem, hc⟩ := mem_writtenChunks h
  exact mem_chunks hmem hc

/-- A batch is written whole when the database takes all of its chunks. -/
theorem written_of_not_fails (h : ∀ n, b.fails n = false) : b.written = b.candles := by
  rw [written, writtenChunks_of_not_fails h, flatten_chunks]

theorem exchange_symbol (b : CandleBatch cfg) : b.symbol.exchange = b.feed.exchangeId :=
  exchange_of_adapterSymbol b.parsed

theorem storageKey_feed (b : CandleBatch cfg) :
    b.feed.storageKey cfg = some (b.symbol.ccxtSymbol, b.feed.exchangeId) := by
  rw [SymbolFeed.storageKey, b.parsed, Option.map_some, b.exchange_symbol]

end CandleBatch

theorem upsertChunks_rows (cfg : CandleConfig) (fails : ℕ → Bool) (n : ℕ)
    (cs : List (List Candle)) (T : CandleTable) :
    (upsertChunks cfg fails n cs T).1.rows = insertAll CandleRow.uniqueKey T.rows
      ((writtenChunks fails n cs).map (candleRow cfg)) := by
  induction cs generalizing n T with
  | nil => rfl
  | cons chunk cs ih =>
      rw [upsertChunks, writtenChunks]
      cases fails n with
      | true => rfl
      | false =>
          rw [if_neg Bool.false_ne_true, if_neg Bool.false_ne_true, ih, List.map_append,
            insertAll_append]
          rfl

theorem persistCandles_rows (cfg : CandleConfig) (fails : ℕ → Bool) (candles : List Candle)
    (T : CandleTable) :
    (persistCandles cfg fails candles T).rows = insertAll CandleRow.uniqueKey T.rows
      ((writtenChunks fails 0 (chunks candles)).map (candleRow cfg)) := by
  unfold persistCandles
  split
  next hempty =>
    rw [List.isEmpty_iff.1 hempty]
    rfl
  next => exact upsertChunks_rows cfg fails 0 _ T

/-- Only the rows of the candles are written. -/
theorem mem_persistCandles {fails : ℕ → Bool} {candles : List Candle} {T : CandleTable}
    {r : CandleRow} (h : r ∈ (persistCandles cfg fails candles T).rows) :
    r ∈ T.rows ∨ ∃ c ∈ candles, candleRow cfg c = r := by
  rw [persistCandles_rows] at h
  refine (mem_insertAll h).imp_right fun hr => ?_
  obtain ⟨c, hc, rfl⟩ := List.mem_map.1 hr
  obtain ⟨chunk, hmem, hc⟩ := mem_writtenChunks hc
  exact ⟨c, mem_chunks hmem hc, rfl⟩

theorem persistAll_rows (bs : List (CandleBatch cfg)) (T : CandleTable) :
    (persistAll cfg bs T).rows = insertAll CandleRow.uniqueKey T.rows
      (bs.flatMap fun b => b.written.map (candleRow cfg)) := by
  induction bs generalizing T with
  | nil => rfl
  | cons b bs ih =>
      change (persistAll cfg bs (persistCandles cfg b.fails b.candles T)).rows = _
      rw [ih, persistCandles_rows, List.flatMap_cons, insertAll_append]
      rfl

theorem mem_persistAll {r : CandleRow} (h : r ∈ (persistAll cfg bs .empty).rows) :
    ∃ b ∈ bs, ∃ c ∈ b.written, candleRow cfg c = r := by
  rw [persistAll_rows] at h
  rcases mem_insertAll h with h | h
  · cases h
  · obtain ⟨b, hb, hr⟩ := List.mem_flatMap.1 h
    exact ⟨b, hb, List.mem_map.1 hr⟩

theorem persisted_ne_nil {b : CandleBatch cfg} (hb : b ∈ bs) (hc : c ∈ b.written) :
    persisted bs b.feed ≠ [] := by
  intro hnil
  have hall := insertAll_nil_eq_nil_iff.1 hnil
  have hmem : c ∈ (bs.filter fun b' => b'.feed = b.feed).flatMap CandleBatch.written :=
    List.mem_flatMap.2 ⟨b, List.mem_filter.2 ⟨hb, decide_eq_true rfl⟩, hc⟩
  rw [hall] at hmem
  cases hmem

/-- The symbol of the candles of a feed is that of its adapter. -/
theorem adapterSymbol_of_mem_written
    (h : c ∈ (bs.filter fun b => b.feed = f).flatMap CandleBatch.written) :
    adapterSymbol cfg.upper cfg.pionexNative f.symbol f.exchangeId = some c.symbol ∧
      c.timeframe = f.timeframe := by
  obtain ⟨b, hb, hc⟩ := List.mem_flatMap.1 h
  obtain rfl := of_decide_eq_true (List.mem_filter.1 hb).2
  obtain ⟨hsymbol, htimeframe⟩ := b.ofFeed c (CandleBatch.mem_candles_of_mem_written hc)
  rw [hsymbol]
  exact ⟨b.parsed, htimeframe⟩

theorem mem_written_of_mem_persisted (h : c ∈ persisted bs f) :
    c ∈ (bs.filter fun b => b.feed = f).flatMap CandleBatch.written :=
  (mem_insertAll h).resolve_left List.not_mem_nil

theorem nodup_persisted (bs : List (CandleBatch cfg)) (f : SymbolFeed) :
    ((persisted bs f).map Candle.timestamp).Nodup := nodup_insertAll_nil _ _

/-! ### What a reader finds -/

theorem SymbolFeed.IsSpot.storageKey (h : f.IsSpot cfg) :
    f.storageKey cfg = some (f.symbol, f.exchangeId) := by
  rw [SymbolFeed.storageKey, h.adapterSymbol_eq, Option.map_some, h.ccxtSymbol_symbolOfText]
  rfl

/-- The rows that are read for a feed are those of its candles. -/
theorem rowsOf_persistAll (h : ∀ f, persisted bs f ≠ [] → f.IsSpot cfg) (f : SymbolFeed) :
    (persistAll cfg bs .empty).rowsOf f.symbol f.exchangeId f.timeframe =
      (persisted bs f).map (candleRow cfg) := by
  have hblock : ∀ b ∈ bs, ∀ c ∈ b.written,
      decide ((candleRow cfg c).symbol = f.symbol ∧ (candleRow cfg c).exchange = f.exchangeId ∧
        (candleRow cfg c).timeframe = f.timeframe) = decide (b.feed = f) := by
    intro b hb c hc
    obtain ⟨hsymbol, htimeframe⟩ := b.ofFeed c (CandleBatch.mem_candles_of_mem_written hc)
    have hkey := (h b.feed (persisted_ne_nil hb hc)).storageKey
    rw [b.storageKey_feed] at hkey
    have htext : b.symbol.ccxtSymbol = b.feed.symbol := congrArg Prod.fst (Option.some.inj hkey)
    simp only [candleRow, hsymbol, htimeframe, b.exchange_symbol, htext, decide_eq_decide]
    constructor
    · rintro ⟨hsymbol', hexchange', htimeframe'⟩
      exact SymbolFeed.ext hsymbol' htimeframe' hexchange'
    · rintro rfl
      exact ⟨rfl, rfl, rfl⟩
  rw [CandleTable.rowsOf, persistAll_rows, filter_insertAll, persisted,
    filter_flatMap_map hblock]
  · symm
    refine map_insertAll (f := candleRow cfg) fun x hx y hy => ?_
    obtain ⟨hx, hx'⟩ := adapterSymbol_of_mem_written hx
    obtain ⟨hy, hy'⟩ := adapterSymbol_of_mem_written hy
    rw [hx] at hy
    simp [CandleRow.uniqueKey, candleRow, Option.some.inj hy, hx', hy']
  · intro r r' hkey
    simp only [CandleRow.uniqueKey, Prod.mk.injEq] at hkey
    rw [hkey.1.1, hkey.1.2.1, hkey.1.2.2]

/-- A stored candle is decoded as it was exactly under its own symbol, when it is kept. -/
theorem candleOfRow_candleRow_iff {symbol : Symbol} {timeframe : String} :
    candleOfRow symbol timeframe (candleRow cfg c) = c ↔
      symbol = c.symbol ∧ timeframe = c.timeframe ∧ c.IsKept cfg := by
  constructor
  · intro h
    exact ⟨congrArg Candle.symbol h, congrArg Candle.timeframe h, congrArg Candle.openPrice h,
      congrArg Candle.high h, congrArg Candle.low h, congrArg Candle.closePrice h,
      congrArg Candle.volume h⟩
  · rintro ⟨rfl, rfl, hkept⟩
    cases c
    simp only [candleOfRow, candleRow, Candle.mk.injEq, true_and]
    exact ⟨hkept.openPrice, hkept.high, hkept.low, hkept.closePrice, hkept.volume⟩

theorem map_candleOfRow {timeframe : String} {candles : List Candle} {symbol : Symbol}
    (h : ∀ c ∈ candles, symbol = c.symbol ∧ timeframe = c.timeframe ∧ c.IsKept cfg) :
    (candles.map (candleRow cfg)).map (candleOfRow symbol timeframe) = candles := by
  rw [List.map_map]
  exact (List.map_congr_left fun c hc => candleOfRow_candleRow_iff.2 (h c hc)).trans
    (List.map_id candles)

/-- The candles of a spot market that the columns keep are decoded as they were. -/
theorem isDecoded_of_mem_persisted (hspot : f.IsSpot cfg)
    (hkept : ∀ c ∈ persisted bs f, c.IsKept cfg) :
    ∀ c ∈ persisted bs f, symbolOfText cfg.upper f.symbol f.exchangeId = c.symbol ∧
      f.timeframe = c.timeframe ∧ c.IsKept cfg := by
  intro c hc
  obtain ⟨hsymbol, htimeframe⟩ :=
    adapterSymbol_of_mem_written (mem_written_of_mem_persisted hc)
  rw [hspot.adapterSymbol_eq] at hsymbol
  exact ⟨Option.some.inj hsymbol, htimeframe.symm, hkept c hc⟩

/-- The reads of the feed and of the loader when the rows of the feed are those of its
candles. -/
theorem dbCandles_eq {T : CandleTable}
    (hrows : T.rowsOf f.symbol f.exchangeId f.timeframe = (persisted bs f).map (candleRow cfg))
    (hdecoded : ∀ c ∈ persisted bs f, symbolOfText cfg.upper f.symbol f.exchangeId = c.symbol ∧
      f.timeframe = c.timeframe ∧ c.IsKept cfg) (now : Timestamp) :
    f.dbCandles cfg T now = f.recentCandles (persisted bs f) now := by
  have htimes : CandleRow.timestamp ∘ candleRow cfg = Candle.timestamp := rfl
  unfold SymbolFeed.dbCandles SymbolFeed.recentCandles SymbolFeed.dbSymbolStr
    CandleTable.getLatestTimestamp CandleTable.getOhlcv
  rw [hrows, List.map_map, htimes]
  cases ((persisted bs f).map Candle.timestamp).max? with
  | none => rfl
  | some latest =>
      dsimp only
      rw [selectRange_map, htimes]
      exact map_candleOfRow fun c hc => hdecoded c (mem_of_mem_selectRange hc)

theorem loadFromDbIfComplete_eq {T : CandleTable} (hspot : persisted bs f ≠ [] → f.IsSpot cfg)
    (hrows : T.rowsOf f.symbol f.exchangeId f.timeframe = (persisted bs f).map (candleRow cfg))
    (hdecoded : ∀ c ∈ persisted bs f, symbolOfText cfg.upper f.symbol f.exchangeId = c.symbol ∧
      f.timeframe = c.timeframe ∧ c.IsKept cfg) (start stop : Timestamp) :
    loadFromDbIfComplete cfg T f start stop =
      completeCandles f.timeframe (persisted bs f) start stop := by
  have htimes : CandleRow.timestamp ∘ candleRow cfg = Candle.timestamp := rfl
  unfold loadFromDbIfComplete completeCandles CandleTable.getOhlcv
  rw [hrows, selectRange_map, htimes]
  dsimp only
  rw [List.map_map, htimes]
  by_cases hnil : persisted bs f = []
  · rw [hnil]
    rfl
  · split
    next =>
      rw [parseSymbolStr_of_count (hspot hnil).pair]
      dsimp only
      rw [map_candleOfRow fun c hc => hdecoded c (mem_of_mem_selectRange hc)]
    next => rfl

theorem storesApart_of_isSpot
    (h : ∀ f, ∀ c ∈ persisted bs f, f.IsSpot cfg ∧ c.IsKept cfg) : StoresApart cfg bs := by
  have hspot : ∀ f, persisted bs f ≠ [] → f.IsSpot cfg := by
    intro f hne
    obtain ⟨c, hc⟩ := List.exists_mem_of_ne_nil _ hne
    exact (h f c hc).1
  have hdecoded : ∀ f, ∀ c ∈ persisted bs f, symbolOfText cfg.upper f.symbol f.exchangeId =
      c.symbol ∧ f.timeframe = c.timeframe ∧ c.IsKept cfg := fun f c hc =>
    isDecoded_of_mem_persisted (h f c hc).1 (fun c hc => (h f c hc).2) c hc
  refine ⟨fun f f' hne hne' hkey => ?_, fun f => ?_, fun f => ?_⟩
  · rw [(hspot f hne).storageKey, (hspot f' hne').storageKey, Option.some_inj,
      Prod.mk.injEq] at hkey
    exact hkey
  · exact dbCandles_eq (rowsOf_persistAll hspot f) (hdecoded f)
  · exact loadFromDbIfComplete_eq (hspot f) (rowsOf_persistAll hspot f) (hdecoded f)

/-! ### What the loader shows of a market -/

/-- The read of the loader at the time of one candle. -/
theorem completeCandles_self (hc : c ∈ persisted bs f) :
    completeCandles f.timeframe (persisted bs f) c.timestamp c.timestamp = .complete [c] := by
  have hlimit : 0 < loadLimit := by decide
  have hselect := selectRange_self hc (nodup_persisted bs f) hlimit
  unfold completeCandles
  dsimp only
  rw [hselect, if_pos]
  simp [coversRange]

/-- A candle that the loader reads is decoded from a row of the table. -/
theorem exists_row_of_loaded {T : CandleTable} {start stop : Timestamp}
    (h : loadFromDbIfComplete cfg T f start stop = .complete [c]) :
    parseSymbolStr cfg.upper f.symbol f.exchangeId = some c.symbol ∧
      ∃ r ∈ T.rows, r.symbol = f.symbol ∧ candleOfRow c.symbol f.timeframe r = c := by
  unfold loadFromDbIfComplete at h
  dsimp only at h
  split at h
  next =>
    split at h
    next => cases h
    next symbol hparse =>
      have hmap := LoadedCandles.complete.inj h
      have hmem : c ∈ (T.getOhlcv f.symbol f.exchangeId f.timeframe start stop loadLimit).map
          (candleOfRow symbol f.timeframe) := by
        rw [hmap]
        exact List.mem_cons_self
      obtain ⟨r, hr, hdecoded⟩ := List.mem_map.1 hmem
      obtain ⟨hrow, hmatches⟩ := List.mem_filter.1 (mem_of_mem_selectRange hr)
      obtain rfl : symbol = c.symbol := congrArg Candle.symbol hdecoded
      exact ⟨hparse, r, hrow, (of_decide_eq_true hmatches).1, hdecoded⟩
  next => cases h

theorem isSpot_of_storesApart (h : StoresApart cfg bs) (hc : c ∈ persisted bs f) :
    f.IsSpot cfg ∧ c.IsKept cfg := by
  have hload := h.loader f c.timestamp c.timestamp
  rw [completeCandles_self hc] at hload
  obtain ⟨hparse, r, hr, htext, hdecoded⟩ := exists_row_of_loaded hload
  obtain ⟨b, -, c', hc', rfl⟩ := mem_persistAll hr
  constructor
  · refine isSpotText_of_parseSymbolStr
      (adapterSymbol_of_mem_written (mem_written_of_mem_persisted hc)).1 hparse ?_
    rw [← htext, candleRow, (b.ofFeed c' (CandleBatch.mem_candles_of_mem_written hc')).1]
    exact keeps_ccxtSymbol b.parsed
  · rw [← hdecoded]
    exact ⟨cfg.column.keep_keep _, cfg.column.keep_keep _, cfg.column.keep_keep _,
      cfg.column.keep_keep _, cfg.column.keep_keep _⟩

/-- Stored candles are found again and kept apart exactly when they are those of spot markets
and the columns keep their numbers. -/
theorem storesApart_iff (cfg : CandleConfig) (bs : List (CandleBatch cfg)) :
    StoresApart cfg bs ↔ ∀ f, ∀ c ∈ persisted bs f, f.IsSpot cfg ∧ c.IsKept cfg :=
  ⟨fun h _ _ hc => isSpot_of_storesApart h hc, storesApart_of_isSpot⟩

end Table

/-- A process whose columns keep every number. -/
def CandleConfig.exact : CandleConfig where
  upper := .ascii
  column := ⟨id, monotone_id, fun _ => rfl⟩

/-- The perpetual market of BTC. -/
def SymbolFeed.btcPerpetual : SymbolFeed := ⟨"BTC/USDT:USDT", "1h", .binance⟩

/-- One candle of the perpetual market. -/
def CandleBatch.btcPerpetual : CandleBatch .exact where
  feed := .btcPerpetual
  symbol := ⟨"BTC", "USDT", .binance, .futures⟩
  parsed := by decide +kernel
  candles := [⟨⟨"BTC", "USDT", .binance, .futures⟩, 3600, "1h", 100, 110, 90, 105, 1, by decide⟩]
  ofFeed := by
    intro c hc
    obtain rfl := List.mem_singleton.1 hc
    exact ⟨rfl, rfl⟩

/-- The spot market of the pair has the same key. -/
example : SymbolFeed.btcPerpetual.storageKey .exact =
    (⟨"BTC/USDT", "1h", .binance⟩ : SymbolFeed).storageKey .exact := by decide +kernel

/-- A feed of a perpetual market does not find its candle again. -/
theorem not_storesApart :
    ¬ ∀ (cfg : CandleConfig) (bs : List (CandleBatch cfg)),
      (∀ b ∈ bs, ∀ c ∈ b.candles, c.IsKept cfg) → StoresApart cfg bs := by
  intro h
  have hkept : ∀ b ∈ [CandleBatch.btcPerpetual], ∀ c ∈ b.candles, c.IsKept .exact :=
    fun _ _ _ _ => ⟨rfl, rfl, rfl, rfl, rfl⟩
  have hfeed := (h .exact [.btcPerpetual] hkept).feed .btcPerpetual 3600
  revert hfeed
  decide +kernel

end Sgr
