import Sgr.Backtesting.Pagination
import Sgr.Collection.Memo

/-!
# The cache of the loader

`load_from_exchange` and `load_public_history` of `sgr/backtesting/data_loader.py` remember what
they have loaded under a text with the dates of the window and without the times of day. A later
load of another window with these dates gets the candles of the first one.
-/

open Collection

namespace Sgr

/-- `load_from_exchange` or `load_public_history`. -/
inductive HistoryLoader
  | exchange
  | publicHistory

/-- The arguments of a load. -/
structure LoadRequest where
  loader : HistoryLoader
  market : SymbolFeed
  window : HistoryWindow

/-- What the loads take their candles from, as long as it does not change: what a load of the
public history meets, and `get_ohlcv` of the adapter of an exchange, if the pool has one. -/
structure LoadSources where
  env : SymbolFeed → LoadEnv
  adapter : ExchangeID → Except String (SymbolFeed → ℤ → ℕ → Except String (List HistoryBar))

/-- What a load comes to without the cache; `none` if the loop over the pages of an adapter has not
ended after so many pages. -/
def LoadSources.load (src : LoadSources) (fuel : ℕ) (r : LoadRequest) :
    Option (Except String (List HistoryBar)) :=
  match r.loader with
  | .publicHistory => (src.env r.market).load r.market r.window
  | .exchange =>
      match (src.env r.market).storedIfComplete r.market.timeframe r.window with
      | some rows => some ((checkSymbol r.market.symbol).map fun _ => rows)
      | none =>
          match src.adapter r.market.exchangeId with
          | .error text => some (.error text)
          | .ok getOhlcv => paginate (fun _ => getOhlcv r.market) r.market.timeframe r.window fuel

/-- `cache_key`. It ends with the two dates, which have ten characters each. -/
structure LoadKey where
  text : String
  startDate : ℤ
  stopDate : ℤ
  deriving DecidableEq

/-- `cache_key` of a load. -/
def LoadRequest.key (r : LoadRequest) : LoadKey where
  text := (match r.loader with
    | .exchange => ""
    | .publicHistory => "public:") ++
      r.market.exchangeId.value ++ ":" ++ r.market.symbol ++ ":" ++ r.market.timeframe
  startDate := dateOf r.window.start
  stopDate := dateOf r.window.stop

/-- The series of a load that ends without an exception. -/
def loadedBars? : Option (Except String (List HistoryBar)) → Option (List HistoryBar)
  | some (.ok bars) => some bars
  | _ => none

/-- What the loads of one loader come to, one after the other. -/
def LoadSources.loadAll (src : LoadSources) (fuel : ℕ) (rs : List LoadRequest) :
    List (Option (Except String (List HistoryBar))) :=
  memoAll (src.load fuel) loadedBars? (fun bars => some (.ok bars)) LoadRequest.key Dict.empty rs

/-- `load_public_history` is a call through the cache. -/
theorem loadPublicHistory_eq_memo (e : LoadEnv) (f : SymbolFeed) (w : HistoryWindow)
    (cache : HistoryCache) : loadPublicHistory e f w cache =
      let called := memo (e.load f) loadedBars? (fun bars => some (.ok bars)) (cacheKey f) cache w
      called.1.map fun answer => (answer, called.2) := by
  rw [loadPublicHistory]
  cases hget : cache.get? (cacheKey f w) with
  | some bars =>
      rw [memo_of_get?_eq_some hget]
      rfl
  | none =>
      rw [memo_of_get?_eq_none hget]
      cases e.load f w with
      | none => rfl
      | some answer =>
          cases answer with
          | error text => rfl
          | ok bars => rfl

/-! ### Loads with one key -/

/-- The candles of an answer are of the window. -/
def AnswersWithin (w : HistoryWindow) (answer : Option (Except String (List HistoryBar))) : Prop :=
  ∀ bars, answer = some (.ok bars) → ∀ c ∈ bars, w.start ≤ c.timestamp ∧ c.timestamp ≤ w.stop

/-- Every load comes to what it does without the cache, with candles of its window. -/
def LoadsAsUncached (src : LoadSources) (fuel : ℕ) (rs : List LoadRequest) : Prop :=
  src.loadAll fuel rs = rs.map (src.load fuel) ∧
    ∀ p ∈ rs.zip (src.loadAll fuel rs), AnswersWithin p.1.window p.2

theorem loadedBars?_eq_some_iff (answer : Option (Except String (List HistoryBar)))
    (bars : List HistoryBar) : loadedBars? answer = some bars ↔ answer = some (.ok bars) := by
  unfold loadedBars?
  split
  next => simp
  next hne => exact iff_of_false (fun h => by cases h) fun h => hne bars h

/-- The loads of a sequence come to what they do without the cache, with candles of their windows,
exactly if of two loads with one key the second has the candles of the first if that one succeeds,
and no load without the cache has candles outside its window. -/
theorem loadsAsUncached_iff (src : LoadSources) (fuel : ℕ) (rs : List LoadRequest) :
    LoadsAsUncached src fuel rs ↔
      (rs.Pairwise fun r r' => r.key = r'.key → ∀ bars, src.load fuel r = some (.ok bars) →
        src.load fuel r' = some (.ok bars)) ∧
      ∀ r ∈ rs, AnswersWithin r.window (src.load fuel r) := by
  have hempty : ∀ r ∈ rs, RemembersResult (src.load fuel) (fun bars => some (.ok bars))
      LoadRequest.key Dict.empty r := fun r _ a h => by cases h
  have hanswers : src.loadAll fuel rs = rs.map (src.load fuel) ↔
      rs.Pairwise fun r r' => r.key = r'.key → ∀ bars, src.load fuel r = some (.ok bars) →
        src.load fuel r' = some (.ok bars) :=
    (memoAll_eq_map_iff loadedBars?_eq_some_iff Dict.empty rs).trans (and_iff_right hempty)
  rw [LoadsAsUncached, hanswers]
  refine and_congr_right fun hpairs => ?_
  have hzip : rs.zip (src.loadAll fuel rs) = rs.map fun r => (r, src.load fuel r) := by
    rw [hanswers.2 hpairs]
    simpa using List.zip_map' (f := id) (g := src.load fuel) (l := rs)
  rw [hzip]
  exact List.forall_mem_map

/-- Public history that is loaded from a whole millisecond on is of the window. -/
theorem answersWithin_publicHistory {src : LoadSources} {fuel : ℕ} {r : LoadRequest}
    (hserves : (src.env r.market).ServesHistory) (hloader : r.loader = .publicHistory)
    (hstart : wholeMillisecond r.window.start = r.window.start) :
    AnswersWithin r.window (src.load fuel r) := by
  intro bars hbars c hc
  rw [LoadSources.load, hloader] at hbars
  have hoffers := LoadEnv.offers_of_load hserves hbars (List.mem_map_of_mem hc)
  rw [← hstart]
  exact LoadEnv.mem_window_of_offers hoffers

/-- The bars of four hours are stored, and the exchange cannot be reached. -/
def LoadSources.fourHours : LoadSources where
  env _ :=
    { stored := .ok ([0, 3600, 7200, 10800].map HistoryBar.atSecond)
      markets := .error "unreachable"
      history := fun _ => []
      fetchOhlcv := fun _ _ _ => .error "unreachable" }
  adapter _ := .error "not in the pool"

/-- A load of the first hours of the day. -/
def LoadRequest.hours (n : ℤ) : LoadRequest :=
  ⟨.publicHistory, ⟨"BTC/USDT", "1h", .binance⟩, ⟨0, n * 3600 * microseconds⟩⟩

/-- A load of three hours after one of a single hour comes to the candles of that hour. -/
theorem not_loadsAsUncached :
    ¬ ∀ (src : LoadSources) (fuel : ℕ) (rs : List LoadRequest), LoadsAsUncached src fuel rs := by
  intro h
  have heq := (h .fourHours 0 [.hours 1, .hours 3]).1
  have hlengths := congrArg
    (List.map fun answer => (loadedBars? answer).map List.length) heq
  revert hlengths
  decide +kernel

end Sgr
