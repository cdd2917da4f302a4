import Sgr.Backtesting.SeriesGaps
import Sgr.Collection.PageRuns

/-!
# The pages of a download

`_paginate_and_load` of `sgr/backtesting/data_loader.py`, for any function `fetch_batch`. The next
page starts a bar after the last candle of the one before; the loop ends with the window, or with
a page of which less than the batch size is kept.
-/

open Collection

namespace Sgr

/-- `_paginate_and_load`. What `fetch_batch` returns can depend on how often it has been called
before; `none` if so many pages are not enough. -/
def paginate (fetchBatch : ℕ → ℤ → ℕ → Except String (List HistoryBar)) (timeframe : String)
    (w : HistoryWindow) (fuel : ℕ) : Option (Except String (List HistoryBar)) :=
  (pagesByCall HistoryBar.timestamp (fun call since => fetchBatch call since batchSize) batchSize
    (barLength timeframe) w.stop fuel 0 w.start).map fun answer => answer.map fun allCandles =>
      byTime HistoryBar.timestamp (latestByTime HistoryBar.timestamp allCandles)

/-- The download of public history. -/
theorem LoadEnv.paginateAndLoad_eq_paginate (e : LoadEnv) (f : SymbolFeed) (resolved : String)
    (w : HistoryWindow) : e.paginateAndLoad f resolved w =
      paginate (fun _ since _ => e.fetchBatch f resolved since) f.timeframe w
        ((w.stop - w.start).toNat + 1) := by
  rw [LoadEnv.paginateAndLoad, paginate, pages_eq_pagesByCall _ _ _ _ _ _ 0]

/-! ### The pages -/

section Pages

variable (fetchBatch : ℕ → ℤ → ℕ → List HistoryBar) (timeframe : String) (w : HistoryWindow)

/-- The start of a page, the first one having the number zero. -/
def pageStart (k : ℕ) : ℤ :=
  cursor HistoryBar.timestamp (fun call since => fetchBatch call since batchSize)
    (barLength timeframe) w.stop k 0 w.start

/-- The candles of a page up to the end of the window. -/
def pageRows (k : ℕ) : List HistoryBar :=
  keptRows HistoryBar.timestamp (fun call since => fetchBatch call since batchSize) w.stop k
    (pageStart fetchBatch timeframe w k)

/-- The loop ends with a page: it starts at the end of the window or after it, or it is not
full. -/
def EndsWithPage (k : ℕ) : Prop :=
  w.stop ≤ pageStart fetchBatch timeframe w k ∨
    (pageRows fetchBatch timeframe w k).length < batchSize

/-- The loop comes to a page. -/
def ReadsPage (k : ℕ) : Prop :=
  IsRead HistoryBar.timestamp (fun call since => fetchBatch call since batchSize) batchSize
    (barLength timeframe) w.stop k 0 w.start

/-- The load of a download without exceptions comes to a series. -/
def LoadsSeries (bars : List HistoryBar) : Prop :=
  ∃ fuel, paginate (fun call since limit => .ok (fetchBatch call since limit)) timeframe w fuel =
    some (.ok bars)

/-- The load ends, with candles of the window in the order of their times and none twice. -/
def LoadsWindow : Prop :=
  ∃ bars, LoadsSeries fetchBatch timeframe w bars ∧ StrictlyAscends HistoryBar.timestamp bars ∧
    ∀ c ∈ bars, w.start ≤ c.timestamp ∧ c.timestamp ≤ w.stop

end Pages

section Window

variable {fetchBatch : ℕ → ℤ → ℕ → List HistoryBar} {timeframe : String} {w : HistoryWindow}
  {bars : List HistoryBar}

theorem barLength_pos (timeframe : String) : 0 < barLength timeframe :=
  (by decide : 0 < 60 * microseconds).trans_le (minute_le_barLength timeframe)

/-- The series of a load is made of the rows of its pages. -/
theorem loadsSeries_iff : LoadsSeries fetchBatch timeframe w bars ↔
    ∃ rows, ReadsRows HistoryBar.timestamp (fun call since => fetchBatch call since batchSize)
        batchSize (barLength timeframe) w.stop 0 w.start rows ∧
      bars = byTime HistoryBar.timestamp (latestByTime HistoryBar.timestamp rows) := by
  have hlimit : 0 < batchSize := by decide
  constructor
  · rintro ⟨fuel, hbars⟩
    obtain ⟨answer, hanswer, hbars⟩ := Option.map_eq_some_iff.1 hbars
    cases answer with
    | error text => cases hbars
    | ok rows =>
        cases hbars
        exact ⟨rows, (readsRows_iff hlimit).2 ⟨fuel, hanswer⟩, rfl⟩
  · rintro ⟨rows, hrows, rfl⟩
    obtain ⟨fuel, hanswer⟩ := (readsRows_iff hlimit).1 hrows
    exact ⟨fuel, congrArg (Option.map _) hanswer⟩

/-- The rows of a load are those of the pages that it comes to. -/
theorem mem_rows_iff_pageRows {rows : List HistoryBar} {c : HistoryBar}
    (h : ReadsRows HistoryBar.timestamp (fun call since => fetchBatch call since batchSize)
      batchSize (barLength timeframe) w.stop 0 w.start rows) :
    c ∈ rows ↔ ∃ k, ReadsPage fetchBatch timeframe w k ∧
      c ∈ pageRows fetchBatch timeframe w k := by
  rw [h.mem_iff]
  simp only [Nat.zero_add]
  exact Iff.rfl

/-- A load ends exactly if one of its pages ends it. -/
theorem exists_loadsSeries_iff : (∃ bars, LoadsSeries fetchBatch timeframe w bars) ↔
    ∃ k, EndsWithPage fetchBatch timeframe w k := by
  have hends : (∃ rows, ReadsRows HistoryBar.timestamp
        (fun call since => fetchBatch call since batchSize) batchSize (barLength timeframe) w.stop
        0 w.start rows) ↔ ∃ k, EndsWithPage fetchBatch timeframe w k := by
    rw [exists_readsRows_iff]
    simp only [Nat.zero_add]
    exact Iff.rfl
  simp only [loadsSeries_iff]
  rw [exists_comm]
  simpa using hends

/-- A load ends with an ordered series of candles of its window exactly if one of its pages ends
it, and no page that it comes to has a candle before the window. -/
theorem loadsWindow_iff (fetchBatch : ℕ → ℤ → ℕ → List HistoryBar) (timeframe : String)
    (w : HistoryWindow) : LoadsWindow fetchBatch timeframe w ↔
      (∃ k, EndsWithPage fetchBatch timeframe w k) ∧
        ∀ k, ReadsPage fetchBatch timeframe w k →
          ∀ c ∈ pageRows fetchBatch timeframe w k, w.start ≤ c.timestamp := by
  rw [← exists_loadsSeries_iff, LoadsWindow]
  have hseries {bars : List HistoryBar} (hbars : LoadsSeries fetchBatch timeframe w bars) :
      (StrictlyAscends HistoryBar.timestamp bars ∧
          ∀ c ∈ bars, w.start ≤ c.timestamp ∧ c.timestamp ≤ w.stop) ↔
        ∀ k, ReadsPage fetchBatch timeframe w k →
          ∀ c ∈ pageRows fetchBatch timeframe w k, w.start ≤ c.timestamp := by
    obtain ⟨rows, hrows, rfl⟩ := loadsSeries_iff.1 hbars
    rw [and_iff_right (strictlyAscends_byTime_latestByTime rows)]
    have htimes : (∀ c ∈ byTime HistoryBar.timestamp (latestByTime HistoryBar.timestamp rows),
          w.start ≤ c.timestamp ∧ c.timestamp ≤ w.stop) ↔
        ∀ c ∈ rows, w.start ≤ c.timestamp ∧ c.timestamp ≤ w.stop := by
      simp only [mem_byTime]
      exact forall_latestByTime_iff (p := fun t => w.start ≤ t ∧ t ≤ w.stop)
    rw [htimes]
    constructor
    · exact fun h k hk c hc => (h c ((mem_rows_iff_pageRows hrows).2 ⟨k, hk, hc⟩)).1
    · intro h c hc
      obtain ⟨k, hk, hmem⟩ := (mem_rows_iff_pageRows hrows).1 hc
      exact ⟨h k hk c hmem, of_decide_eq_true (List.mem_filter.1 hmem).2⟩
  constructor
  · rintro ⟨bars, hbars, hwindow⟩
    exact ⟨⟨bars, hbars⟩, (hseries hbars).1 hwindow⟩
  · rintro ⟨⟨bars, hbars⟩, hpages⟩
    exact ⟨bars, hbars, (hseries hbars).2 hpages⟩

/-! ### Sources that cut their bars into pages -/

/-- The bars of a window. -/
def barsWithin (w : HistoryWindow) (series : List HistoryBar) : List HistoryBar :=
  series.filter fun c => w.start ≤ c.timestamp ∧ c.timestamp ≤ w.stop

/-- A page covers the bars up to the next one. -/
def PageCovers (fetchBatch : ℕ → ℤ → ℕ → List HistoryBar) (timeframe : String)
    (w : HistoryWindow) (series : List HistoryBar) (k : ℕ) : Prop :=
  ∀ c ∈ series, pageStart fetchBatch timeframe w k ≤ c.timestamp → c.timestamp ≤ w.stop →
    c ∈ pageRows fetchBatch timeframe w k ∨
      ¬ EndsWithPage fetchBatch timeframe w k ∧
        pageStart fetchBatch timeframe w (k + 1) < w.stop ∧
          pageStart fetchBatch timeframe w (k + 1) ≤ c.timestamp

theorem pageStart_succ (k : ℕ) : pageStart fetchBatch timeframe w (k + 1) =
    nextSince HistoryBar.timestamp (fun call since => fetchBatch call since batchSize)
      (barLength timeframe) w.stop k (pageStart fetchBatch timeframe w k) := by
  rw [pageStart, cursor_succ, Nat.zero_add]
  rfl

section Prefixes

variable {series rows : List HistoryBar}

theorem mem_barsWithin {c : HistoryBar} : c ∈ barsWithin w series ↔
    c ∈ series ∧ w.start ≤ c.timestamp ∧ c.timestamp ≤ w.stop := by
  simp [barsWithin]

/-- The rows of a load are the bars of the window exactly if no bar of it is missing. -/
theorem barsWithin_eq_iff
    (hserves : ServesPrefixes HistoryBar.timestamp
      (fun call since => fetchBatch call since batchSize) batchSize series)
    (hrows : ReadsRows HistoryBar.timestamp (fun call since => fetchBatch call since batchSize)
      batchSize (barLength timeframe) w.stop 0 w.start rows) :
    barsWithin w series = byTime HistoryBar.timestamp (latestByTime HistoryBar.timestamp rows) ↔
      ∀ c ∈ series, w.start ≤ c.timestamp → c.timestamp ≤ w.stop → c ∈ rows := by
  have hsound : ∀ c ∈ rows, c ∈ series ∧ w.start ≤ c.timestamp ∧ c.timestamp ≤ w.stop :=
    fun c hc => hserves.mem_of_readsRows (by decide) (barLength_pos timeframe) hrows hc
  have hmem {c : HistoryBar} := mem_byTime_latestByTime hserves.ascends
    (fun c hc => (hsound c hc).1) (x := c)
  constructor
  · intro heq c hc hfrom hle
    rw [← hmem, ← heq, mem_barsWithin]
    exact ⟨hc, hfrom, hle⟩
  · intro hall
    refine StrictlyAscends.eq_of_mem_iff (hserves.ascends.filter _)
      (strictlyAscends_byTime_latestByTime rows) fun c => ?_
    rw [hmem]
    refine mem_barsWithin.trans ⟨fun ⟨hc, hfrom, hle⟩ => hall c hc hfrom hle, hsound c⟩

/-- No bar of the window is missing exactly if every page that the load comes to covers the bars
up to the next one, and no bar opens in a window that is an instant. -/
theorem forall_mem_rows_iff
    (hserves : ServesPrefixes HistoryBar.timestamp
      (fun call since => fetchBatch call since batchSize) batchSize series)
    (hrows : ReadsRows HistoryBar.timestamp (fun call since => fetchBatch call since batchSize)
      batchSize (barLength timeframe) w.stop 0 w.start rows) :
    (∀ c ∈ series, w.start ≤ c.timestamp → c.timestamp ≤ w.stop → c ∈ rows) ↔
      (w.start = w.stop → ∀ c ∈ series, c.timestamp ≠ w.stop) ∧
        ∀ k, ReadsPage fetchBatch timeframe w k → PageCovers fetchBatch timeframe w series k := by
  rcases lt_or_ge w.start w.stop with hlt | hge
  · rw [hserves.complete_iff (by decide) (barLength_pos timeframe) hrows hlt]
    simp only [hlt.ne, false_imp_iff, true_and, Nat.zero_add]
    refine forall₂_congr fun k hk => ?_
    rw [PageCovers, pageStart_succ]
    exact Iff.rfl
  · have hnone : ∀ k, ¬ ReadsPage fetchBatch timeframe w k := not_isRead_of_le hge
    rw [hrows.eq_nil_of_le hge]
    constructor
    · exact fun hall => ⟨fun heq c hc hstop => List.not_mem_nil
        (hall c hc (heq.trans hstop.symm).le hstop.le), fun k hk => absurd hk (hnone k)⟩
    · rintro ⟨hinstant, -⟩ c hc hfrom hle
      have heq : w.start = w.stop := le_antisymm (hfrom.trans hle) hge
      exact absurd (le_antisymm hle (heq ▸ hfrom)) (hinstant heq c hc)

/-- From a source that cuts its bars into pages as it likes, exactly the bars of the window are
loaded exactly if every page that the load comes to covers the bars up to the next one, and no bar
opens in a window that is an instant. -/
theorem loadsSeries_barsWithin_iff
    (hserves : ServesPrefixes HistoryBar.timestamp
      (fun call since => fetchBatch call since batchSize) batchSize series)
    (timeframe : String) (w : HistoryWindow) :
    LoadsSeries fetchBatch timeframe w (barsWithin w series) ↔
      (w.start = w.stop → ∀ c ∈ series, c.timestamp ≠ w.stop) ∧
        ∀ k, ReadsPage fetchBatch timeframe w k → PageCovers fetchBatch timeframe w series k := by
  rw [loadsSeries_iff]
  constructor
  · rintro ⟨rows, hrows, heq⟩
    exact (forall_mem_rows_iff hserves hrows).1 ((barsWithin_eq_iff hserves hrows).1 heq)
  · intro hpages
    obtain ⟨rows, hrows⟩ := hserves.exists_readsRows (by decide) (barLength_pos timeframe) 0
      w.start
    exact ⟨rows, hrows, (barsWithin_eq_iff hserves hrows).2
      ((forall_mem_rows_iff hserves hrows).2 hpages)⟩

end Prefixes

end Window

/-! ### Two exchanges -/

/-- An exchange that answers every request with its first candle. -/
def sameCandle (_ : ℕ) (_ : ℤ) (limit : ℕ) : List HistoryBar :=
  List.replicate limit (.atSecond 0)

/-- Two hours. -/
def twoHours : HistoryWindow := ⟨0, 7200 * microseconds⟩

theorem pageRows_sameCandle (k : ℕ) :
    pageRows sameCandle "1h" twoHours k = List.replicate batchSize (.atSecond 0) :=
  List.filter_replicate_of_pos rfl

theorem pageStart_sameCandle (k : ℕ) :
    pageStart sameCandle "1h" twoHours (k + 1) = barLength "1h" := by
  rw [pageStart_succ, nextSince]
  change ((pageRows sameCandle "1h" twoHours k).getLast?.map _).getD _ = _
  rw [pageRows_sameCandle, List.getLast?_replicate, if_neg (by decide)]
  exact zero_add _

/-- A load of two hours from it never ends. -/
theorem not_loadsWindow :
    ¬ ∀ (fetchBatch : ℕ → ℤ → ℕ → List HistoryBar) (timeframe : String) (w : HistoryWindow),
      LoadsWindow fetchBatch timeframe w := by
  intro h
  obtain ⟨bars, hbars, -⟩ := h sameCandle "1h" twoHours
  obtain ⟨k, hk⟩ := exists_loadsSeries_iff.1 ⟨bars, hbars⟩
  rcases hk with hstart | hshort
  · cases k with
    | zero =>
        revert hstart
        decide
    | succ k =>
        rw [pageStart_sameCandle] at hstart
        revert hstart
        decide +kernel
  · rw [pageRows_sameCandle, List.length_replicate] at hshort
    exact lt_irrefl _ hshort

/-- An exchange that returns at most so many bars at once. -/
def cappedPages (series : List HistoryBar) (cap : ℕ) (_ : ℕ) (since : ℤ) (limit : ℕ) :
    List HistoryBar :=
  (series.filter fun c => since ≤ c.timestamp).take (min cap limit)

theorem servesPrefixes_cappedPages {series : List HistoryBar}
    (hascends : StrictlyAscends HistoryBar.timestamp series) {cap : ℕ} (hcap : 0 < cap) :
    ServesPrefixes HistoryBar.timestamp
      (fun call since => cappedPages series cap call since batchSize) batchSize series where
  ascends := hascends
  isPrefix _ _ := List.take_prefix _ _
  length_le _ _ := (List.length_take_le _ _).trans (min_le_right _ _)
  ne_nil _ since := by
    rintro ⟨c, hc, hfrom⟩ hnil
    have hpos : 0 < min cap batchSize := lt_min hcap (by decide)
    rcases List.take_eq_nil_iff.1 hnil with hzero | hnil
    · omega
    · exact List.filter_eq_nil_iff.1 hnil c hc (decide_eq_true hfrom)

/-- The bars of three hours. -/
def threeBars : List HistoryBar := [0, 3600, 7200].map HistoryBar.atSecond

theorem strictlyAscends_threeBars : StrictlyAscends HistoryBar.timestamp threeBars := by decide

/-- They are loaded from an exchange that returns ten of them at once. -/
theorem loadsSeries_barsWithin_iff_tenAtOnce :
    LoadsSeries (cappedPages threeBars 10) "1h" twoHours (barsWithin twoHours threeBars) ↔
      (twoHours.start = twoHours.stop → ∀ c ∈ threeBars, c.timestamp ≠ twoHours.stop) ∧
        ∀ k, ReadsPage (cappedPages threeBars 10) "1h" twoHours k →
          PageCovers (cappedPages threeBars 10) "1h" twoHours threeBars k :=
  loadsSeries_barsWithin_iff (servesPrefixes_cappedPages strictlyAscends_threeBars (by decide))
    "1h" twoHours

/-- From an exchange that returns two of them at once, the third is not loaded. -/
theorem not_loadsSeries_barsWithin :
    ¬ ∀ (fetchBatch : ℕ → ℤ → ℕ → List HistoryBar) (series : List HistoryBar),
      ServesPrefixes HistoryBar.timestamp
        (fun call since => fetchBatch call since batchSize) batchSize series →
      ∀ (timeframe : String) (w : HistoryWindow),
        LoadsSeries fetchBatch timeframe w (barsWithin w series) := by
  intro h
  have hserves := servesPrefixes_cappedPages strictlyAscends_threeBars (by decide : 0 < 2)
  obtain ⟨rows, hrows, heq⟩ := loadsSeries_iff.1 (h _ _ hserves "1h" twoHours)
  have hlast := (barsWithin_eq_iff hserves hrows).1 heq (.atSecond 7200) (by simp [threeBars])
    (by decide) (by decide)
  rw [mem_rows_iff_pageRows hrows] at hlast
  obtain ⟨k, hk, hmem⟩ := hlast
  cases k with
  | zero =>
      have htimes := List.mem_map_of_mem (f := HistoryBar.timestamp) hmem
      revert htimes
      decide +kernel
  | succ k => exact hk.1 (.inr (by decide +kernel))

end Sgr
