import Mathlib.Algebra.Order.Ring.Int
import Sgr.Collection.Pages
import Sgr.MarketData.CandleStore

/-!
# Loading history

`load_public_history` of `sgr/backtesting/data_loader.py`. A window is read to the microsecond:
from the series that is remembered under its dates, else from the table if the stored rows pass
for complete, else page by page from the exchange.
-/

open Collection

namespace Sgr

/-- The microseconds of a second. -/
def microseconds : ℤ := 1000000

/-- The microseconds of a day. -/
def dayLength : ℤ := 86400 * microseconds

/-- `date()` of an instant, as the number of the day. -/
def dateOf (t : ℤ) : ℤ := t / dayLength

/-- The millisecond that an instant lies in, as an instant. -/
def wholeMillisecond (t : ℤ) : ℤ := t / 1000 * 1000

/-- `tolerance`, a bar of a timeframe. -/
def barLength (timeframe : String) : ℤ := timeframeToSeconds timeframe * microseconds

/-- What a candle says apart from its time. -/
structure Ohlcv where
  openPrice : ℚ
  high : ℚ
  low : ℚ
  closePrice : ℚ
  volume : ℚ
  highGteLow : low ≤ high

/-- A candle of a series; its symbol and its timeframe are those of the load. -/
structure HistoryBar extends Ohlcv where
  timestamp : ℤ

/-- A row of `fetch_ohlcv`, with its time in milliseconds. -/
structure OhlcvRow extends Ohlcv where
  milliseconds : ℤ

/-- The candle of a row. -/
def OhlcvRow.bar (r : OhlcvRow) : HistoryBar := ⟨r.toOhlcv, r.milliseconds * 1000⟩

/-- `start` and `end` of a load. -/
structure HistoryWindow where
  start : ℤ
  stop : ℤ
  deriving DecidableEq

/-- What a load meets: the rows of the market in the table, the symbols that the public client
of the exchange knows, the candles that the exchange has of each of them, and the answers of the
client. An error is the text of the exception. -/
structure LoadEnv where
  stored : Except String (List HistoryBar)
  markets : Except String (List String)
  history : String → List OhlcvRow
  fetchOhlcv : String → ℤ → ℕ → Except String (List OhlcvRow)

/-! ### The table -/

/-- The times reach from the start to the end, up to one bar. -/
def coversWindow (timeframe : String) (times : List ℤ) (w : HistoryWindow) : Bool :=
  match times.head?, times.getLast? with
  | some first, some last =>
      first ≤ w.start + barLength timeframe && w.stop - barLength timeframe ≤ last
  | _, _ => false

/-- The rows of `_load_from_db_if_complete`, if they pass for complete. -/
def LoadEnv.storedIfComplete (e : LoadEnv) (timeframe : String) (w : HistoryWindow) :
    Option (List HistoryBar) :=
  match e.stored with
  | .error _ => none
  | .ok table =>
      let rows := selectRange HistoryBar.timestamp w.start w.stop loadLimit table
      if coversWindow timeframe (rows.map HistoryBar.timestamp) w then some rows else none

/-! ### The exchange -/

/-- `batch_size`. -/
def batchSize : ℕ := 500

/-- The text of the `ValueError` of `_parse_symbol_str`. -/
def invalidSymbolText (symbol : String) : String :=
  "Invalid symbol format for public history: '" ++ symbol ++ "'"

/-- What `_parse_symbol_str` lets pass. -/
def checkSymbol (symbol : String) : Except String Unit :=
  if (twoParts symbol.toList).isSome then .ok () else .error (invalidSymbolText symbol)

/-- `resolved_symbol`: a market that is not listed on the spot is looked for as a perpetual. -/
def resolvedSymbol (markets : List String) (symbol : String) : String :=
  if symbol ∉ markets ∧ symbol ++ ":USDT" ∈ markets then symbol ++ ":USDT" else symbol

namespace LoadEnv

variable (e : LoadEnv) (f : SymbolFeed)

/-- `fetch_batch`. -/
def fetchBatch (resolved : String) (since : ℤ) : Except String (List HistoryBar) :=
  (e.fetchOhlcv resolved (since / 1000) batchSize).bind fun rows =>
    (checkSymbol f.symbol).map fun _ => byTime HistoryBar.timestamp (rows.map OhlcvRow.bar)

/-- `_paginate_and_load`; a page more than there are microseconds is never read. -/
def paginateAndLoad (resolved : String) (w : HistoryWindow) :
    Option (Except String (List HistoryBar)) :=
  (pages HistoryBar.timestamp (e.fetchBatch f resolved) batchSize (barLength f.timeframe) w.stop
    ((w.stop - w.start).toNat + 1) w.start).map fun answer => answer.map fun allCandles =>
      byTime HistoryBar.timestamp (latestByTime HistoryBar.timestamp allCandles)

/-- What `load_public_history` loads when it remembers nothing; `none` if it does not end. -/
def load (w : HistoryWindow) : Option (Except String (List HistoryBar)) :=
  match e.storedIfComplete f.timeframe w with
  | some rows => some ((checkSymbol f.symbol).map fun _ => rows)
  | none =>
      match e.markets with
      | .error text => some (.error text)
      | .ok markets => e.paginateAndLoad f (resolvedSymbol markets f.symbol) w

end LoadEnv

/-! ### The cache -/

/-- What `cache_key` tells apart. -/
structure HistoryKey where
  market : SymbolFeed
  startDate : ℤ
  stopDate : ℤ
  deriving DecidableEq

/-- `cache_key`. -/
def cacheKey (f : SymbolFeed) (w : HistoryWindow) : HistoryKey :=
  ⟨f, dateOf w.start, dateOf w.stop⟩

/-- `_cache`. -/
abbrev HistoryCache := Dict HistoryKey (List HistoryBar)

/-- `load_public_history`. -/
def loadPublicHistory (e : LoadEnv) (f : SymbolFeed) (w : HistoryWindow) (cache : HistoryCache) :
    Option (Except String (List HistoryBar) × HistoryCache) :=
  match cache.get? (cacheKey f w) with
  | some bars => some (.ok bars, cache)
  | none => (e.load f w).map fun
      | .ok bars => (.ok bars, cache.set (cacheKey f w) bars)
      | .error text => (.error text, cache)

/-! ### Where the bars come from -/

/-- What ccxt documents of `fetch_ohlcv`: the first rows of the history of a market, up to the
limit, of those that do not open before `since`. -/
structure LoadEnv.ServesHistory (e : LoadEnv) : Prop where
  ascends : ∀ resolved, StrictlyAscends OhlcvRow.milliseconds (e.history resolved)
  answers : ∀ resolved since limit rows, e.fetchOhlcv resolved since limit = .ok rows →
    rows = ((e.history resolved).filter fun r => since ≤ r.milliseconds).take limit

/-- The candles of the exchange are at least a bar of the timeframe apart from each other. -/
def LoadEnv.BarsApart (e : LoadEnv) (timeframe : String) : Prop :=
  ∀ resolved, ((e.history resolved).map OhlcvRow.bar).Pairwise fun x y =>
    x.timestamp + barLength timeframe ≤ y.timestamp

/-- What the bars of a window are taken from: a remembered series, the stored rows that pass for
complete, or the bars of the exchange. -/
inductive HistorySource
  | remembered (bars : List HistoryBar)
  | stored (rows : List HistoryBar)
  | exchange (bars : List HistoryBar)

namespace HistorySource

/-- Its bars. -/
def bars : HistorySource → List HistoryBar
  | remembered bars => bars
  | stored rows => rows
  | exchange bars => bars

/-- It is a remembered series. -/
def IsRemembered : HistorySource → Prop
  | remembered _ => True
  | _ => False

/-- It has a bar at an instant, which for a bar of the exchange lies in the window. -/
def Offers (s : HistorySource) (w : HistoryWindow) (t : ℤ) : Prop :=
  t ∈ s.bars.map HistoryBar.timestamp ∧
    match s with
    | exchange _ => wholeMillisecond w.start ≤ t ∧ t ≤ w.stop
    | _ => True

/-- The pages of the exchange end before the instant, which is the end of the window. -/
def Misses (s : HistorySource) (timeframe : String) (w : HistoryWindow) (t : ℤ) : Prop :=
  match s with
  | exchange bars => t = w.stop ∧ EndsOnPage HistoryBar.timestamp wholeMillisecond batchSize
      (barLength timeframe) w.stop w.start bars
  | _ => False

/-- The bar at an instant is loaded for a window. -/
def Has (s : HistorySource) (timeframe : String) (w : HistoryWindow) (t : ℤ) : Prop :=
  s.Offers w t ∧ ¬ s.Misses timeframe w t

end HistorySource

/-- What a load takes its bars from when nothing is remembered. -/
def LoadEnv.source (e : LoadEnv) (f : SymbolFeed) (w : HistoryWindow) : HistorySource :=
  match e.storedIfComplete f.timeframe w with
  | some rows => .stored rows
  | none =>
      match e.markets with
      | .error _ => .exchange []
      | .ok markets => .exchange ((e.history (resolvedSymbol markets f.symbol)).map OhlcvRow.bar)

section Load

variable {e : LoadEnv} {f : SymbolFeed} {w : HistoryWindow} {bars rows : List HistoryBar}
  {resolved timeframe : String} {t : ℤ}

theorem minute_le_barLength (timeframe : String) : 60 * microseconds ≤ barLength timeframe := by
  have hseconds : 60 ≤ timeframeToSeconds timeframe := by
    unfold timeframeToSeconds
    split <;> decide
  exact mul_le_mul_of_nonneg_right (Int.ofNat_le.2 hseconds) (by decide)

theorem wholeMillisecond_lowersWithin (timeframe : String) :
    LowersWithin wholeMillisecond (barLength timeframe) where
  mono _ _ h := mul_le_mul_of_nonneg_right (Int.ediv_le_ediv (by decide) h) (by decide)
  le t := Int.ediv_mul_le t (by decide)
  within t := by
    have hlength := minute_le_barLength timeframe
    simp only [microseconds] at hlength
    simp only [wholeMillisecond]
    omega

/-- On whole seconds the stored rows pass for complete as they do in `coversRange`. -/
theorem coversWindow_mul (timeframe : String) (times : List Timestamp) (start stop : Timestamp) :
    coversWindow timeframe (times.map (· * microseconds))
        ⟨start * microseconds, stop * microseconds⟩ = coversRange timeframe times start stop := by
  have hpos : 0 < microseconds := by decide
  rw [coversWindow, coversRange, List.head?_map, List.getLast?_map]
  cases times.head? with
  | none => rfl
  | some first =>
      cases times.getLast? with
      | none => rfl
      | some last =>
          simp only [Option.map_some, barLength, ← add_mul, ← sub_mul,
            mul_le_mul_iff_of_pos_right hpos]

theorem LoadEnv.ServesHistory.ascends_bars (h : e.ServesHistory) (resolved : String) :
    StrictlyAscends HistoryBar.timestamp ((e.history resolved).map OhlcvRow.bar) :=
  List.pairwise_map.2 ((h.ascends resolved).imp fun hlt => mul_lt_mul_of_pos_right hlt (by decide))

/-- To open from a millisecond on is to open from its instant on. -/
theorem map_bar_filter (since : ℤ) (rows : List OhlcvRow) :
    (rows.filter fun r => since / 1000 ≤ r.milliseconds).map OhlcvRow.bar =
      (rows.map OhlcvRow.bar).filter fun x => wholeMillisecond since ≤ x.timestamp := by
  rw [List.filter_map]
  congr 1
  refine List.filter_congr fun r _ => ?_
  rw [Function.comp_apply, decide_eq_decide]
  exact (mul_le_mul_iff_of_pos_right (by decide : (0 : ℤ) < 1000)).symm

/-- The batches are pages of the bars of the history. -/
theorem LoadEnv.ServesHistory.servesPages (h : e.ServesHistory) (f : SymbolFeed)
    (resolved : String) : ServesPages HistoryBar.timestamp wholeMillisecond
      (e.fetchBatch f resolved) batchSize ((e.history resolved).map OhlcvRow.bar) where
  ascends := h.ascends_bars resolved
  answers since page hpage := by
    rw [LoadEnv.fetchBatch] at hpage
    cases hrows : e.fetchOhlcv resolved (since / 1000) batchSize with
    | error text =>
        rw [hrows] at hpage
        cases hpage
    | ok rows =>
        rw [hrows] at hpage
        change (checkSymbol f.symbol).map _ = .ok page at hpage
        cases hsymbol : checkSymbol f.symbol with
        | error text =>
            rw [hsymbol] at hpage
            cases hpage
        | ok _ =>
            rw [hsymbol] at hpage
            cases hpage
            rw [h.answers _ _ _ _ hrows, List.map_take, map_bar_filter]
            exact List.Pairwise.insertionSort_eq
              (StrictlyAscends.ascends ((h.ascends_bars resolved).filter _).take)

theorem mem_times_byTime_latestByTime : t ∈ (byTime HistoryBar.timestamp
      (latestByTime HistoryBar.timestamp rows)).map HistoryBar.timestamp ↔
    t ∈ rows.map HistoryBar.timestamp := by
  rw [((byTime_perm _).map HistoryBar.timestamp).mem_iff, List.mem_map, List.mem_map]
  constructor
  · rintro ⟨x, hx, rfl⟩
    exact ⟨x, mem_of_mem_latestByTime hx, rfl⟩
  · rintro ⟨x, hx, rfl⟩
    exact exists_mem_latestByTime hx

/-- The rows of the pages that a series is made of have its times. -/
theorem LoadEnv.pagesRead_of_paginateAndLoad
    (h : e.paginateAndLoad f resolved w = some (.ok bars)) :
    ∃ rows, PagesRead HistoryBar.timestamp (e.fetchBatch f resolved) batchSize
        (barLength f.timeframe) w.stop w.start rows ∧
      ∀ t, t ∈ bars.map HistoryBar.timestamp ↔ t ∈ rows.map HistoryBar.timestamp := by
  obtain ⟨answer, hpages, hanswer⟩ := Option.map_eq_some_iff.1 h
  cases answer with
  | error text => cases hanswer
  | ok rows =>
      cases hanswer
      exact ⟨rows, pagesRead_of_pages (by decide) hpages, fun t => mem_times_byTime_latestByTime⟩

/-- A load takes the stored rows or the pages of the exchange. -/
theorem LoadEnv.load_cases (h : e.load f w = some (.ok bars)) :
    e.source f w = .stored bars ∨
      ∃ resolved, e.source f w = .exchange ((e.history resolved).map OhlcvRow.bar) ∧
        e.paginateAndLoad f resolved w = some (.ok bars) := by
  rw [LoadEnv.load] at h
  rw [LoadEnv.source]
  cases hstored : e.storedIfComplete f.timeframe w with
  | some rows =>
      rw [hstored] at h
      cases hsymbol : checkSymbol f.symbol with
      | error text =>
          rw [hsymbol] at h
          cases h
      | ok _ =>
          rw [hsymbol] at h
          cases h
          exact .inl rfl
  | none =>
      rw [hstored] at h
      cases hmarkets : e.markets with
      | error text =>
          rw [hmarkets] at h
          cases h
      | ok markets =>
          rw [hmarkets] at h
          exact .inr ⟨_, rfl, h⟩

/-- Every bar that is loaded is one that the source offers. -/
theorem LoadEnv.offers_of_load (hserves : e.ServesHistory)
    (h : e.load f w = some (.ok bars)) (ht : t ∈ bars.map HistoryBar.timestamp) :
    (e.source f w).Offers w t := by
  rcases LoadEnv.load_cases h with hsource | ⟨resolved, hsource, hpages⟩
  · rw [hsource]
    exact ⟨ht, trivial⟩
  · obtain ⟨rows, hread, htimes⟩ := LoadEnv.pagesRead_of_paginateAndLoad hpages
    rw [htimes] at ht
    obtain ⟨x, hx, rfl⟩ := List.mem_map.1 ht
    obtain ⟨hmem, hwindow⟩ := hread.mem (hserves.servesPages f resolved)
      (wholeMillisecond_lowersWithin f.timeframe) hx
    rw [hsource]
    exact ⟨List.mem_map_of_mem hmem, hwindow⟩

/-- What the source of a load offers lies in the window. -/
theorem LoadEnv.mem_window_of_offers (h : (e.source f w).Offers w t) :
    wholeMillisecond w.start ≤ t ∧ t ≤ w.stop := by
  have hlower := wholeMillisecond_lowersWithin f.timeframe
  rw [LoadEnv.source] at h
  cases hstored : e.storedIfComplete f.timeframe w with
  | some rows =>
      rw [hstored] at h
      obtain ⟨x, hx, rfl⟩ := List.mem_map.1 h.1
      have hrange : w.start ≤ x.timestamp ∧ x.timestamp ≤ w.stop := by
        rw [LoadEnv.storedIfComplete] at hstored
        cases htable : e.stored with
        | error text =>
            rw [htable] at hstored
            cases hstored
        | ok table =>
            simp only [htable, Option.ite_none_right_eq_some, Option.some.injEq] at hstored
            rw [← hstored.2] at hx
            exact mem_range_of_mem_selectRange hx
      exact ⟨(hlower.le w.start).trans hrange.1, hrange.2⟩
  | none =>
      rw [hstored] at h
      cases hmarkets : e.markets with
      | error text =>
          rw [hmarkets] at h
          exact h.2
      | ok markets =>
          rw [hmarkets] at h
          exact h.2

/-- The bars that are loaded are those that the source has for the window. -/
theorem LoadEnv.mem_times_load_iff (hserves : e.ServesHistory)
    (hapart : e.BarsApart f.timeframe) (hlt : w.start < w.stop)
    (h : e.load f w = some (.ok bars)) :
    t ∈ bars.map HistoryBar.timestamp ↔ (e.source f w).Has f.timeframe w t := by
  rcases LoadEnv.load_cases h with hsource | ⟨resolved, hsource, hpages⟩
  · rw [hsource]
    exact ⟨fun ht => ⟨⟨ht, trivial⟩, id⟩, fun ht => ht.1.1⟩
  · obtain ⟨rows, hread, htimes⟩ := LoadEnv.pagesRead_of_paginateAndLoad hpages
    have hlower := wholeMillisecond_lowersWithin f.timeframe
    have hpos : 0 < barLength f.timeframe := (by decide : 0 < 60 * microseconds).trans_le
      (minute_le_barLength f.timeframe)
    have hiff : ∀ x ∈ (e.history resolved).map OhlcvRow.bar,
        wholeMillisecond w.start ≤ x.timestamp → x.timestamp ≤ w.stop →
        (x ∈ rows ↔ ¬ (HistorySource.exchange ((e.history resolved).map OhlcvRow.bar)).Misses
          f.timeframe w x.timestamp) := fun x hx hfrom hle =>
      hread.mem_iff (hserves.servesPages f resolved) hlower (hapart resolved) hpos hlt hx hfrom hle
    rw [hsource, htimes]
    constructor
    · intro ht
      obtain ⟨x, hx, rfl⟩ := List.mem_map.1 ht
      obtain ⟨hmem, hfrom, hle⟩ := hread.mem (hserves.servesPages f resolved) hlower hx
      exact ⟨⟨List.mem_map_of_mem hmem, hfrom, hle⟩, (hiff x hmem hfrom hle).1 hx⟩
    · rintro ⟨⟨hmem, hfrom, hle⟩, hmisses⟩
      obtain ⟨x, hx, rfl⟩ := List.mem_map.1 hmem
      exact List.mem_map_of_mem ((hiff x hx hfrom hle).2 hmisses)

/-- A load whose calls are all answered returns a series. -/
theorem LoadEnv.exists_load_eq (hserves : e.ServesHistory)
    (hsymbol : checkSymbol f.symbol = .ok ()) {markets : List String}
    (hmarkets : e.markets = .ok markets)
    (hanswers : ∀ resolved since limit, ∃ rows, e.fetchOhlcv resolved since limit = .ok rows) :
    ∃ bars, e.load f w = some (.ok bars) := by
  rw [LoadEnv.load, hsymbol, hmarkets]
  cases e.storedIfComplete f.timeframe w with
  | some rows => exact ⟨rows, rfl⟩
  | none =>
      have hpages := hserves.servesPages f (resolvedSymbol markets f.symbol)
      obtain ⟨answer, hpages, hok⟩ := exists_pages_eq hpages
        (wholeMillisecond_lowersWithin f.timeframe) (Nat.lt_succ_self (w.stop - w.start).toNat)
      obtain ⟨rows, rfl⟩ := hok fun since => by
        obtain ⟨rows, hrows⟩ := hanswers (resolvedSymbol markets f.symbol) (since / 1000) batchSize
        rw [LoadEnv.fetchBatch, hrows, hsymbol]
        exact ⟨_, rfl⟩
      exact ⟨_, congrArg (Option.map _) hpages⟩

end Load

end Sgr
