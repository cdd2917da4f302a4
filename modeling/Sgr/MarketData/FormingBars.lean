import Sgr.MarketData.BufferOrder

/-!
# Bars that are still forming

The last candle of an answer can be that of a bar that has not closed yet. A feed takes it over
like the others and goes on from its time, so it does not take it over again, and the table keeps
the row that was written first. The values of such a bar stay what they were when it was seen
first.
-/

open Collection Concurrency

namespace Sgr

/-- The open, high, low and close of a bar and its volume. -/
abbrev BarValues := ℚ × ℚ × ℚ × ℚ × ℚ

def Candle.values (c : Candle) : BarValues :=
  (c.openPrice, c.high, c.low, c.closePrice, c.volume)

def CandleRow.values (r : CandleRow) : BarValues :=
  (r.openPrice, r.high, r.low, r.closePrice, r.volume)

/-- What the columns keep of the values of a bar. -/
def keptValues (cfg : CandleConfig) (v : BarValues) : BarValues :=
  (cfg.column.keep v.1, cfg.column.keep v.2.1, cfg.column.keep v.2.2.1,
    cfg.column.keep v.2.2.2.1, cfg.column.keep v.2.2.2.2)

/-- What an exchange reports of the bars of a market: at each time the values of the bar that
begins at a time. They do not change any more when the bar is closed. -/
structure BarHistory (timeframe : String) where
  valuesAt : Timestamp → Timestamp → BarValues
  valuesAt_of_closed : ∀ now bar : Timestamp, bar + timeframeToSeconds timeframe ≤ now →
    valuesAt now bar = valuesAt (bar + timeframeToSeconds timeframe) bar

section History

variable {timeframe : String}

/-- The bar that begins at a time is closed. -/
def IsClosed (timeframe : String) (now bar : Timestamp) : Prop :=
  bar + timeframeToSeconds timeframe ≤ now

/-- The values of a bar when it closes. -/
def BarHistory.final (h : BarHistory timeframe) (bar : Timestamp) : BarValues :=
  h.valuesAt (bar + timeframeToSeconds timeframe) bar

/-- The candles of an answer have the values of the time of the answer, and all of their bars are
closed except perhaps the last. -/
structure BarHistory.Reports (h : BarHistory timeframe) (now : Timestamp) (fetched : Fetched) :
    Prop where
  values : ∀ c ∈ fetched.candles, c.values = h.valuesAt now c.timestamp
  closed : ∀ c ∈ fetched.candles.dropLast, IsClosed timeframe now c.timestamp

/-- All answers that a call can get are those of the exchange. -/
def BarHistory.ReportsTo (h : BarHistory timeframe) (e : FeedEnv) : Prop :=
  ∀ request fetched, e.getOhlcv request = .ok fetched → h.Reports e.now fetched

/-- The exchange answers the calls of a feed. -/
def BarHistory.Answers (h : BarHistory timeframe) : FeedCall → Prop
  | .initializeFeed e => h.ReportsTo e
  | .update e e' => h.ReportsTo e ∧ h.ReportsTo e'
  | .restart => True

end History

section Bars

variable (cfg : CandleConfig) (f : SymbolFeed) (h : BarHistory f.timeframe)

/-- The bars that the feed and the table have and that are closed have their final values. -/
structure KeepsFinal (now : Timestamp) (s : FeedState) : Prop where
  buffer : ∀ c ∈ s.candleBuffer, IsClosed f.timeframe now c.timestamp →
    c.values = h.final c.timestamp
  table : ∀ r ∈ s.table.rows, IsClosed f.timeframe now r.timestamp →
    r.values = h.final r.timestamp

/-- The exchange answers the poll of an update. -/
def IsAnswered (e e' : FeedEnv) (s : FeedState) : Prop :=
  (f.prepared cfg e s).initialized = true ∧ e'.banned = false ∧
    ∃ fetched, e'.getOhlcv (pollRequest (f.prepared cfg e s)) = .ok fetched

/-- After a poll the closed bars have their final values. -/
def FinalAfterPoll (s : FeedState) : FeedCall → Prop
  | .update e e' => IsAnswered cfg f e e' s → KeepsFinal f h e'.now (f.update cfg e e' s)
  | _ => True

/-- The bar of a candle is closed, or its values do not change any more. -/
def FormingIsFinal (now : Timestamp) (c : Candle) : Prop :=
  ¬ IsClosed f.timeframe now c.timestamp → c.values = h.final c.timestamp

/-- The columns keep the values of a candle. -/
def IsKeptWhole (c : Candle) : Prop := keptValues cfg c.values = c.values

/-- The bars that an initialization takes over from the exchange while they are forming do not
change any more, and the columns keep what it takes over. -/
def InitializesFinal (e : FeedEnv) (s : FeedState) : Prop :=
  ∀ fetched, e.banned = false →
    e.getOhlcv (f.initialRequest (f.storedCandles cfg e s)) = .ok fetched →
    ∀ c ∈ newCandles ((f.storedCandles cfg e s).getLast?.map Candle.timestamp) fetched.candles,
      FormingIsFinal f h e.now c ∧ IsKeptWhole cfg c

/-- The bars that a poll takes over while they are forming, as new ones or to fill a gap, do not
change any more, and the columns keep the new ones. -/
def PollsFinal (e : FeedEnv) (s : FeedState) : Prop :=
  ∀ fetched, e.banned = false → e.getOhlcv (pollRequest s) = .ok fetched →
    (∀ c ∈ newCandles s.lastProcessedTs fetched.candles,
      FormingIsFinal f h e.now c ∧ IsKeptWhole cfg c) ∧
    ∀ c, IsFill e.getOhlcv (f.gapsBefore s (newCandles s.lastProcessedTs fetched.candles)) c →
      FormingIsFinal f h e.now c

/-- The bars that a call takes over while they are forming do not change any more. -/
def TakesFinal (s : FeedState) : FeedCall → Prop
  | .initializeFeed e => InitializesFinal cfg f h e s
  | .update e e' =>
      (s.initialized = false → InitializesFinal cfg f h e s) ∧
        ((f.prepared cfg e s).initialized = true → PollsFinal cfg f h e' (f.prepared cfg e s))
  | .restart => True

/-- The values that the feed has are final, and so are those of the table, which the columns have
kept. -/
structure AllFinal (s : FeedState) : Prop where
  buffer : ∀ c ∈ s.candleBuffer, c.values = h.final c.timestamp
  rows : ∀ r ∈ s.table.rows, r.values = h.final r.timestamp ∧ keptValues cfg r.values = r.values

end Bars

section Final

variable {cfg : CandleConfig} {f : SymbolFeed} {h : BarHistory f.timeframe} {e e' : FeedEnv}
  {s t : FeedState} {c : Candle}

theorem AllFinal.keepsFinal (hs : AllFinal cfg f h s) (now : Timestamp) : KeepsFinal f h now s :=
  ⟨fun c hc _ => hs.buffer c hc, fun r hr _ => (hs.rows r hr).1⟩

/-- What the exchange reports of a closed bar is final. -/
theorem FormingIsFinal.eq_final {now : Timestamp} {fetched : Fetched}
    (hc : FormingIsFinal f h now c) (hreports : h.Reports now fetched)
    (hmem : c ∈ fetched.candles) : c.values = h.final c.timestamp := by
  by_cases hclosed : IsClosed f.timeframe now c.timestamp
  · rw [hreports.values c hmem]
    exact h.valuesAt_of_closed now c.timestamp hclosed
  · exact hc hclosed

theorem mem_of_mem_newCandles {lastProcessedTs : Option Timestamp} {fetched : List Candle}
    (hc : c ∈ newCandles lastProcessedTs fetched) : c ∈ fetched := by
  cases lastProcessedTs with
  | none => exact hc
  | some last => exact List.mem_of_mem_filter hc

/-- The rows of final candles that the columns keep are final. -/
theorem rows_final {fails : ℕ → Bool} {candles : List Candle} {T : CandleTable}
    (hT : ∀ r ∈ T.rows, r.values = h.final r.timestamp ∧ keptValues cfg r.values = r.values)
    (hcandles : ∀ c ∈ candles, c.values = h.final c.timestamp ∧ IsKeptWhole cfg c) :
    ∀ r ∈ (persistCandles cfg fails candles T).rows,
      r.values = h.final r.timestamp ∧ keptValues cfg r.values = r.values := by
  intro r hr
  rcases mem_persistCandles hr with hr | ⟨c, hc, rfl⟩
  · exact hT r hr
  · have hvalues : (candleRow cfg c).values = c.values := (hcandles c hc).2
    rw [hvalues]
    exact hcandles c hc

/-- The stored candles that a feed reads are final when the rows are. -/
theorem storedCandles_final (hs : AllFinal cfg f h s) (hc : c ∈ f.storedCandles cfg e s) :
    c.values = h.final c.timestamp ∧ IsKeptWhole cfg c := by
  unfold SymbolFeed.storedCandles at hc
  split at hc
  next => cases hc
  next =>
    unfold SymbolFeed.dbCandles at hc
    split at hc
    next => cases hc
    next =>
      obtain ⟨r, hr, rfl⟩ := List.mem_map.1 hc
      exact hs.rows r (List.mem_of_mem_filter (mem_of_mem_selectRange hr))

theorem mem_initialCandles {dbCandles fetched : List Candle}
    (hc : c ∈ SymbolFeed.initialCandles dbCandles fetched) :
    c ∈ dbCandles ∨ c ∈ newCandles (dbCandles.getLast?.map Candle.timestamp) fetched := by
  unfold SymbolFeed.initialCandles at hc
  split at hc
  next hnone =>
    rw [hnone]
    exact .inr hc
  next last hlast =>
    rw [hlast]
    exact List.mem_append.1 (mem_of_mem_latestByTime (mem_byTime.1 hc))

theorem AllFinal.initializeFeed (hs : AllFinal cfg f h s) (hreports : h.ReportsTo e)
    (htakes : InitializesFinal cfg f h e s) : AllFinal cfg f h (f.initializeFeed cfg e s) := by
  have hstep := initializeStep cfg f e s
  generalize f.initializeFeed cfg e s = t at hstep
  cases hstep with
  | stays => exact hs
  | @fills fetched last hbanned hanswer hlast =>
      have hcandles : ∀ c ∈ SymbolFeed.initialCandles (f.storedCandles cfg e s) fetched.candles,
          c.values = h.final c.timestamp ∧ IsKeptWhole cfg c := by
        intro c hc
        rcases mem_initialCandles hc with hstored | hnew
        · exact storedCandles_final hs hstored
        · obtain ⟨hforming, hkept⟩ := htakes fetched hbanned hanswer c hnew
          exact ⟨hforming.eq_final (hreports _ fetched hanswer) (mem_of_mem_newCandles hnew), hkept⟩
      exact ⟨fun c hc => (hcandles c (mem_of_mem_rtake hc)).1, rows_final hs.rows hcandles⟩

theorem AllFinal.poll (hs : AllFinal cfg f h s) (hreports : h.ReportsTo e)
    (htakes : PollsFinal cfg f h e s) : AllFinal cfg f h (f.poll cfg e s) := by
  have hstep := pollStep cfg f e s
  generalize f.poll cfg e s = t at hstep
  cases hstep with
  | stays => exact hs
  | @appends fetched last buffer hbanned hanswer hlast hgaps =>
      obtain ⟨htaken, hfills⟩ := htakes fetched hbanned hanswer
      have hnew : ∀ c ∈ newCandles s.lastProcessedTs fetched.candles,
          c.values = h.final c.timestamp ∧ IsKeptWhole cfg c := by
        intro c hc
        obtain ⟨hforming, hkept⟩ := htaken c hc
        exact ⟨hforming.eq_final (hreports _ fetched hanswer) (mem_of_mem_newCandles hc), hkept⟩
      have hbuffer : ∀ c ∈ buffer, c.values = h.final c.timestamp := by
        intro c hc
        rcases mem_handleGaps hgaps hc with hc | hc
        · exact hs.buffer c hc
        · have hforming := hfills c hc
          obtain ⟨gap, -, fill, hfill, hmem⟩ := hc
          exact hforming.eq_final (hreports _ fill hfill) hmem
      refine ⟨fun c hc => ?_, rows_final hs.rows hnew⟩
      rcases List.mem_append.1 (mem_of_mem_rtake hc) with hc | hc
      · exact hbuffer c hc
      · exact (hnew c hc).1

theorem AllFinal.prepared (hs : AllFinal cfg f h s) (hreports : h.ReportsTo e)
    (htakes : s.initialized = false → InitializesFinal cfg f h e s) :
    AllFinal cfg f h (f.prepared cfg e s) := by
  cases hinit : s.initialized with
  | true => rwa [prepared_of_initialized hinit]
  | false =>
      rw [prepared_of_not_initialized hinit]
      exact hs.initializeFeed hreports (htakes hinit)

theorem AllFinal.update (hs : AllFinal cfg f h s) (hanswers : h.Answers (.update e e'))
    (htakes : TakesFinal cfg f h s (.update e e')) : AllFinal cfg f h (f.update cfg e e' s) := by
  have hprepared := hs.prepared hanswers.1 htakes.1
  unfold SymbolFeed.update
  split
  next hinit => exact hprepared.poll hanswers.2 (htakes.2 hinit)
  next => exact hprepared

theorem AllFinal.next (hs : AllFinal cfg f h s) {call : FeedCall} (hanswers : h.Answers call)
    (htakes : TakesFinal cfg f h s call) (hnext : (feedMachine cfg f).next s call = some t) :
    AllFinal cfg f h t := by
  cases call with
  | initializeFeed e =>
      cases hnext
      exact hs.initializeFeed hanswers htakes
  | update e e' =>
      cases hnext
      exact hs.update hanswers htakes
  | restart =>
      cases hnext
      exact ⟨fun c hc => absurd hc List.not_mem_nil, hs.rows⟩

end Final

/-- When the bars that are taken over while they are forming do not change any more, every closed
bar that is kept has its final values after each poll. -/
theorem finalAfterPoll_of_takesFinal (cfg : CandleConfig) (f : SymbolFeed)
    (h : BarHistory f.timeframe) (calls : List FeedCall)
    (hanswers : ∀ call ∈ calls, h.Answers call)
    (htakes : (feedMachine cfg f).Guarded (TakesFinal cfg f h) (.new .empty) calls) :
    (feedMachine cfg f).Guarded (FinalAfterPoll cfg f h) (.new .empty) calls := by
  have hall : AllFinal cfg f h (.new .empty) :=
    ⟨fun c hc => absurd hc List.not_mem_nil, fun r hr => absurd hr List.not_mem_nil⟩
  generalize FeedState.new .empty = s at hall htakes ⊢
  induction calls generalizing s with
  | nil => trivial
  | cons call calls ih =>
      have hcall := hanswers call List.mem_cons_self
      have hrest : ∀ call' ∈ calls, h.Answers call' := fun call' hcall' =>
        hanswers call' (List.mem_cons_of_mem call hcall')
      refine ⟨?_, fun t ht => ih hrest t (hall.next hcall htakes.1 ht) (htakes.2 t ht)⟩
      cases call with
      | initializeFeed e => trivial
      | update e e' => exact fun _ => (hall.update hcall htakes.1).keepsFinal e'.now
      | restart => trivial

/-! ### A bar with one trade before and one after the poll -/

/-- Bars whose volume doubles before they close. -/
def growingBars : BarHistory SymbolFeed.btcMinutes.timeframe where
  valuesAt now bar := (100, 101, 99, 100, if bar + 60 ≤ now then 2 else 1)
  valuesAt_of_closed := by
    intro now bar hclosed
    change bar + 60 ≤ now at hclosed
    change _ = (_, _, _, _, if bar + 60 ≤ bar + 60 then 2 else 1)
    rw [if_pos hclosed, if_pos le_rfl]

/-- A candle of a closed bar. -/
def closedCandle (timestamp : Timestamp) : Candle := { minuteCandle timestamp with volume := 2 }

/-- The exchange answers every request at a time with some candles. -/
def envAnswering (now : Timestamp) (fetched : Fetched) : FeedEnv where
  now := now
  getOhlcv _ := .ok fetched

/-- A feed that is polled after each bar. -/
def pollsAfterClose : List FeedCall :=
  [.initializeFeed (envAnswering 60 ⟨[closedCandle 0], by decide +kernel⟩),
    .update (envAnswering 120 ⟨[], .nil⟩) (envAnswering 120 ⟨[closedCandle 60], by decide +kernel⟩)]

/-- A feed that is polled within a bar and after it. -/
def pollsWithinBar : List FeedCall :=
  [.initializeFeed (envAnswering 60 ⟨[closedCandle 0], by decide +kernel⟩),
    .update (envAnswering 90 ⟨[], .nil⟩) (envAnswering 90 ⟨[minuteCandle 60], by decide +kernel⟩),
    .update (envAnswering 130 ⟨[], .nil⟩) (envAnswering 130 ⟨[closedCandle 60], by decide +kernel⟩)]

instance decidableIsClosed (timeframe : String) (now bar : Timestamp) :
    Decidable (IsClosed timeframe now bar) :=
  inferInstanceAs (Decidable (bar + timeframeToSeconds timeframe ≤ now))

theorem reportsTo_envAnswering {timeframe : String} {h : BarHistory timeframe} {now : Timestamp}
    {fetched : Fetched} (hreports : h.Reports now fetched) :
    h.ReportsTo (envAnswering now fetched) := by
  intro request fetched' hanswer
  cases hanswer
  exact hreports

theorem answers_pollsAfterClose : ∀ call ∈ pollsAfterClose, growingBars.Answers call := by
  simp only [pollsAfterClose, List.forall_mem_cons]
  refine ⟨reportsTo_envAnswering ⟨?_, ?_⟩,
    ⟨reportsTo_envAnswering ⟨?_, ?_⟩, reportsTo_envAnswering ⟨?_, ?_⟩⟩, List.forall_mem_nil _⟩ <;>
    decide +kernel

theorem answers_pollsWithinBar : ∀ call ∈ pollsWithinBar, growingBars.Answers call := by
  simp only [pollsWithinBar, List.forall_mem_cons]
  refine ⟨reportsTo_envAnswering ⟨?_, ?_⟩,
    ⟨reportsTo_envAnswering ⟨?_, ?_⟩, reportsTo_envAnswering ⟨?_, ?_⟩⟩,
    ⟨reportsTo_envAnswering ⟨?_, ?_⟩, reportsTo_envAnswering ⟨?_, ?_⟩⟩, List.forall_mem_nil _⟩ <;>
    decide +kernel

instance decidableFormingIsFinal (f : SymbolFeed) (h : BarHistory f.timeframe)
    (now : Timestamp) (c : Candle) : Decidable (FormingIsFinal f h now c) :=
  inferInstanceAs (Decidable (¬ IsClosed f.timeframe now c.timestamp →
    c.values = h.final c.timestamp))

instance decidableIsKeptWhole (cfg : CandleConfig) (c : Candle) : Decidable (IsKeptWhole cfg c) :=
  inferInstanceAs (Decidable (keptValues cfg c.values = c.values))

section Answering

variable {cfg : CandleConfig} {f : SymbolFeed} {h : BarHistory f.timeframe} {now : Timestamp}
  {fetched : Fetched} {s : FeedState}

theorem initializesFinal_envAnswering
    (hfinal : ∀ c ∈ fetched.candles, FormingIsFinal f h now c ∧ IsKeptWhole cfg c) :
    InitializesFinal cfg f h (envAnswering now fetched) s := by
  intro fetched' _ hanswer c hc
  cases hanswer
  exact hfinal c (mem_of_mem_newCandles hc)

theorem pollsFinal_envAnswering
    (hfinal : ∀ c ∈ fetched.candles, FormingIsFinal f h now c ∧ IsKeptWhole cfg c) :
    PollsFinal cfg f h (envAnswering now fetched) s := by
  intro fetched' _ hanswer
  cases hanswer
  refine ⟨fun c hc => hfinal c (mem_of_mem_newCandles hc), ?_⟩
  rintro c ⟨gap, -, fill, hfill, hc⟩
  cases hfill
  exact (hfinal c hc).1

end Answering

/-- Polls after the close of each bar keep the final values. -/
theorem finalAfterPoll_pollsAfterClose :
    (feedMachine .exact .btcMinutes).Guarded (FinalAfterPoll .exact .btcMinutes growingBars)
      (.new .empty) pollsAfterClose :=
  finalAfterPoll_of_takesFinal .exact .btcMinutes growingBars pollsAfterClose
    answers_pollsAfterClose
    ⟨initializesFinal_envAnswering (by decide +kernel), fun _ _ =>
      ⟨⟨fun _ => initializesFinal_envAnswering fun _ hc => absurd hc List.not_mem_nil,
        fun _ => pollsFinal_envAnswering (by decide +kernel)⟩, fun _ _ => trivial⟩⟩

/-- A bar that is polled before it closes keeps the volume that it had then. -/
theorem not_forall_finalAfterPoll :
    ¬ ∀ (cfg : CandleConfig) (f : SymbolFeed) (h : BarHistory f.timeframe)
      (calls : List FeedCall), (∀ call ∈ calls, h.Answers call) →
      (feedMachine cfg f).Guarded (FinalAfterPoll cfg f h) (.new .empty) calls := by
  intro hall
  have hpolls := hall .exact .btcMinutes growingBars pollsWithinBar answers_pollsWithinBar
  have hfinal := ((hpolls.2 _ rfl).2 _ rfl).1 ⟨rfl, rfl, _, rfl⟩
  have hvalues := hfinal.buffer (minuteCandle 60) (by decide +kernel) (by decide +kernel)
  revert hvalues
  decide +kernel

end Sgr
