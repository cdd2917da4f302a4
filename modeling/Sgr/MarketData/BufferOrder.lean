import Sgr.MarketData.Feed
import Sgr.MarketData.StorageKeys

/-!
# The order of the buffer

The candles in the buffer of a feed have ascending times without repetitions as long as no answer
brings one of them twice. The request for a gap goes beyond the gap, so an answer to it can have
the new candles as well; these are appended all the same.
-/

open Collection Concurrency

namespace Sgr

/-- The times in the buffer ascend, and none occurs twice. -/
def InOrder (s : FeedState) : Prop := StrictlyAscends Candle.timestamp s.candleBuffer

/-- No two candles have one time. -/
def TimesDiffer (candles : List Candle) : Prop := (candles.map Candle.timestamp).Nodup

/-- The states of a feed between the suspension points of a call that change it. -/
def statesDuring (cfg : CandleConfig) (f : SymbolFeed) (s : FeedState) :
    FeedCall → List FeedState
  | .initializeFeed e => [f.initializeFeed cfg e s]
  | .update e e' => [f.prepared cfg e s, f.update cfg e e' s]
  | .restart => [.new s.table]

/-- The buffer stays in order throughout a call. -/
def StaysInOrder (cfg : CandleConfig) (f : SymbolFeed) (s : FeedState) (call : FeedCall) : Prop :=
  ∀ t ∈ statesDuring cfg f s call, InOrder t

/-- Where `initialize` has no stored candles, the candles of the answer that fit into the buffer
have different times. -/
def InitializesInOrder (cfg : CandleConfig) (f : SymbolFeed) (e : FeedEnv) (s : FeedState) :
    Prop :=
  ∀ fetched, e.banned = false → f.storedCandles cfg e s = [] →
    e.getOhlcv (f.initialRequest []) = .ok fetched →
    TimesDiffer (fetched.candles.rtake f.maxBuffer)

/-- The new candles that fit into the buffer have different times, and where they leave room for
others, an answer to a request for a gap before them ends before they begin. -/
def NewInOrder (f : SymbolFeed) (e : FeedEnv) (s : FeedState) (new : List Candle) : Prop :=
  TimesDiffer (new.rtake f.maxBuffer) ∧
    (new.length < f.maxBuffer → ∀ c, IsFill e.getOhlcv (f.gapsBefore s new) c →
      ∀ c' ∈ new, c.timestamp < c'.timestamp)

/-- What a poll takes over, unless a request for a gap raises, is in order. -/
def PollsInOrder (f : SymbolFeed) (e : FeedEnv) (s : FeedState) : Prop :=
  ∀ fetched, e.banned = false → e.getOhlcv (pollRequest s) = .ok fetched →
    (∀ gap ∈ f.gapsBefore s (newCandles s.lastProcessedTs fetched.candles),
      e.getOhlcv gap.request ≠ .error .otherError) →
    NewInOrder f e s (newCandles s.lastProcessedTs fetched.candles)

/-- What a call takes over is in order. -/
def TakesInOrder (cfg : CandleConfig) (f : SymbolFeed) (s : FeedState) : FeedCall → Prop
  | .initializeFeed e => InitializesInOrder cfg f e s
  | .update e e' =>
      (s.initialized = false → InitializesInOrder cfg f e s) ∧
        ((f.prepared cfg e s).initialized = true → PollsInOrder f e' (f.prepared cfg e s))
  | .restart => True

section Order

variable {cfg : CandleConfig} {f : SymbolFeed} {e e' : FeedEnv} {s t : FeedState}

/-- The feed knows the time of its last candle. -/
def Synced (s : FeedState) : Prop :=
  s.lastProcessedTs = s.candleBuffer.getLast?.map Candle.timestamp

theorem SymbolFeed.maxBuffer_pos (f : SymbolFeed) : 0 < f.maxBuffer := by
  unfold SymbolFeed.maxBuffer historyRequired
  split <;> decide

theorem strictlyAscends_rtake_iff {candles : List Candle} {n : ℕ}
    (h : Ascends Candle.timestamp candles) :
    StrictlyAscends Candle.timestamp (candles.rtake n) ↔ TimesDiffer (candles.rtake n) := by
  rw [strictlyAscends_iff, and_iff_right (h.rtake n)]
  rfl

/-! ### Initialization -/

theorem initialCandles_inOrder_iff {dbCandles : List Candle} {fetched : Fetched} {n : ℕ} :
    StrictlyAscends Candle.timestamp
        ((SymbolFeed.initialCandles dbCandles fetched.candles).rtake n) ↔
      (dbCandles = [] → TimesDiffer (fetched.candles.rtake n)) := by
  unfold SymbolFeed.initialCandles
  split
  next hnone =>
    rw [List.getLast?_eq_none_iff] at hnone
    rw [strictlyAscends_rtake_iff fetched.ascends, hnone, imp_iff_right rfl]
  next last hlast =>
    have hne : dbCandles ≠ [] := by
      rintro rfl
      cases hlast
    exact iff_of_true ((strictlyAscends_byTime_latestByTime _).rtake n) fun hnil =>
      absurd hnil hne

theorem initializesInOrder_iff {fetched : Fetched} (hbanned : e.banned = false)
    (hanswer : e.getOhlcv (f.initialRequest (f.storedCandles cfg e s)) = .ok fetched) :
    InitializesInOrder cfg f e s ↔
      (f.storedCandles cfg e s = [] → TimesDiffer (fetched.candles.rtake f.maxBuffer)) := by
  constructor
  · intro h hnil
    rw [hnil] at hanswer
    exact h fetched hbanned hnil hanswer
  · intro h fetched' _ hnil hanswer'
    rw [hnil, hanswer'] at hanswer
    cases hanswer
    exact h hnil

theorem inOrder_initializeFeed_iff (hs : InOrder s) :
    InOrder (f.initializeFeed cfg e s) ↔ InitializesInOrder cfg f e s := by
  unfold SymbolFeed.initializeFeed
  split
  next hbanned =>
    exact iff_of_true hs fun fetched hfree => absurd hbanned (Bool.eq_false_iff.1 hfree)
  next hbanned =>
    dsimp only
    split
    next error hanswer =>
      refine iff_of_true hs fun fetched _ hnil hanswer' => ?_
      rw [hnil, hanswer'] at hanswer
      cases hanswer
    next fetched hanswer =>
      rw [initializesInOrder_iff (Bool.eq_false_iff.2 hbanned) hanswer,
        ← initialCandles_inOrder_iff]
      split
      next hnone =>
        rw [List.getLast?_eq_none_iff] at hnone
        rw [hnone, List.rtake_nil]
        exact iff_of_true hs .nil
      next last hlast => exact Iff.rfl

theorem Synced.initializeFeed (hs : Synced s) : Synced (f.initializeFeed cfg e s) := by
  have hstep := initializeStep cfg f e s
  generalize f.initializeFeed cfg e s = t at hstep
  cases hstep with
  | stays => exact hs
  | fills hbanned hanswer hlast =>
      rw [Synced, getLast?_rtake f.maxBuffer_pos, hlast]
      rfl

/-! ### Polls -/

theorem ascends_newCandles (lastProcessedTs : Option Timestamp) (fetched : Fetched) :
    Ascends Candle.timestamp (newCandles lastProcessedTs fetched.candles) := by
  cases lastProcessedTs with
  | none => exact fetched.ascends
  | some last => exact List.Pairwise.filter _ fetched.ascends

/-- New candles are later than those in the buffer. -/
theorem lt_of_mem_newCandles (hsynced : Synced s) (hs : InOrder s) {fetched : List Candle}
    {c c' : Candle} (hc : c ∈ s.candleBuffer)
    (hc' : c' ∈ newCandles s.lastProcessedTs fetched) : c.timestamp < c'.timestamp := by
  obtain ⟨last, hlast⟩ : ∃ last, s.candleBuffer.getLast? = some last :=
    ⟨_, List.getLast?_eq_some_getLast (List.ne_nil_of_mem hc)⟩
  rw [hsynced, hlast] at hc'
  exact lt_of_le_of_lt (hs.ascends.le_of_getLast? hc hlast)
    (of_decide_eq_true (List.mem_filter.1 hc').2)

/-- Gaps are handled unless a request for one raises. -/
theorem handleGaps_raises_iff {getOhlcv : OhlcvRequest → Except FetchError Fetched}
    {gaps : List DataGap} (buffer : List Candle) :
    (handleGaps getOhlcv gaps buffer).2 = false ↔
      ∀ gap ∈ gaps, getOhlcv gap.request ≠ .error .otherError := by
  induction gaps generalizing buffer with
  | nil => simp [handleGaps]
  | cons gap gaps ih =>
      rw [handleGaps, List.forall_mem_cons]
      split
      next fill hfill => rw [ih, hfill, and_iff_right (by simp)]
      next herror => rw [ih, herror, and_iff_right (by simp)]
      next herror => simp [herror]

/-- A buffer in order stays so when the new candles, after those that fill the gaps, do not
repeat a time. -/
theorem append_inOrder_iff (hsynced : Synced s) (hs : InOrder s) {fetched : Fetched}
    {buffer : List Candle}
    (hgaps : handleGaps e.getOhlcv
      (f.gapsBefore s (newCandles s.lastProcessedTs fetched.candles)) s.candleBuffer =
        (buffer, false)) :
    StrictlyAscends Candle.timestamp
        ((buffer ++ newCandles s.lastProcessedTs fetched.candles).rtake f.maxBuffer) ↔
      NewInOrder f e s (newCandles s.lastProcessedTs fetched.candles) := by
  rw [(handleGaps_strictlyAscends hgaps hs).rtake_append_iff,
    strictlyAscends_rtake_iff (ascends_newCandles _ _),
    forall_handleGaps_iff hgaps (p := fun t => ∀ c' ∈ newCandles s.lastProcessedTs fetched.candles,
      t < c'.timestamp),
    and_iff_right fun c hc c' hc' => lt_of_mem_newCandles hsynced hs hc hc']
  rfl

theorem pollsInOrder_iff {fetched : Fetched} (hbanned : e.banned = false)
    (hanswer : e.getOhlcv (pollRequest s) = .ok fetched) :
    PollsInOrder f e s ↔
      ((∀ gap ∈ f.gapsBefore s (newCandles s.lastProcessedTs fetched.candles),
          e.getOhlcv gap.request ≠ .error .otherError) →
        NewInOrder f e s (newCandles s.lastProcessedTs fetched.candles)) := by
  constructor
  · exact fun h => h fetched hbanned hanswer
  · intro h fetched' _ hanswer'
    cases hanswer.symm.trans hanswer'
    exact h

theorem inOrder_poll_iff (hsynced : Synced s) (hs : InOrder s) :
    InOrder (f.poll cfg e s) ↔ PollsInOrder f e s := by
  unfold SymbolFeed.poll
  split
  next hbanned =>
    exact iff_of_true hs fun fetched hfree => absurd hbanned (Bool.eq_false_iff.1 hfree)
  next hbanned =>
    split
    next error hanswer =>
      refine iff_of_true hs fun fetched _ hanswer' => ?_
      rw [hanswer'] at hanswer
      cases hanswer
    next fetched hanswer =>
      rw [pollsInOrder_iff (Bool.eq_false_iff.2 hbanned) hanswer,
        ← handleGaps_raises_iff s.candleBuffer]
      dsimp only
      split
      next hnone =>
        rw [List.getLast?_eq_none_iff] at hnone
        rw [hnone]
        refine iff_of_true hs fun _ => ⟨?_, fun _ c _ c' hc' => absurd hc' List.not_mem_nil⟩
        rw [List.rtake_nil]
        exact List.nodup_nil
      next last hlast =>
        split
        next buffer hgaps =>
          have hsame := eq_of_handleGaps_raises (detect_eq_nil_or_singleton _ _ _) hgaps
          rw [hgaps]
          refine iff_of_true ?_ fun hraises => absurd hraises Bool.true_eq_false_eq_False
          rwa [hsame]
        next buffer hgaps =>
          rw [hgaps, imp_iff_right rfl]
          exact append_inOrder_iff hsynced hs hgaps

theorem Synced.poll (hs : Synced s) : Synced (f.poll cfg e s) := by
  have hstep := pollStep cfg f e s
  generalize f.poll cfg e s = t at hstep
  cases hstep with
  | stays => exact hs
  | appends hbanned hanswer hlast hgaps =>
      rw [Synced, getLast?_rtake f.maxBuffer_pos, List.getLast?_append, hlast]
      rfl

/-! ### Calls -/

theorem prepared_of_initialized (h : s.initialized = true) : f.prepared cfg e s = s := if_pos h

theorem prepared_of_not_initialized (h : s.initialized = false) :
    f.prepared cfg e s = f.initializeFeed cfg e s :=
  if_neg (Bool.eq_false_iff.1 h)

theorem inOrder_prepared_iff (hs : InOrder s) :
    InOrder (f.prepared cfg e s) ↔ (s.initialized = false → InitializesInOrder cfg f e s) := by
  cases hinit : s.initialized with
  | true =>
      rw [prepared_of_initialized hinit]
      exact iff_of_true hs fun hfalse => absurd hfalse Bool.true_eq_false_eq_False
  | false =>
      rw [prepared_of_not_initialized hinit, inOrder_initializeFeed_iff hs, imp_iff_right rfl]

theorem Synced.prepared (hs : Synced s) : Synced (f.prepared cfg e s) := by
  cases hinit : s.initialized with
  | true => rwa [prepared_of_initialized hinit]
  | false =>
      rw [prepared_of_not_initialized hinit]
      exact hs.initializeFeed

theorem inOrder_update_iff (hsynced : Synced (f.prepared cfg e s))
    (hs : InOrder (f.prepared cfg e s)) :
    InOrder (f.update cfg e e' s) ↔
      ((f.prepared cfg e s).initialized = true → PollsInOrder f e' (f.prepared cfg e s)) := by
  unfold SymbolFeed.update
  split
  next hinit => rw [inOrder_poll_iff hsynced hs, imp_iff_right hinit]
  next hinit => exact iff_of_true hs fun h => absurd h hinit

/-- A call keeps the buffer in order exactly if what it takes over is in order. -/
theorem staysInOrder_iff (hsynced : Synced s) (hs : InOrder s) (call : FeedCall) :
    StaysInOrder cfg f s call ↔ TakesInOrder cfg f s call := by
  cases call with
  | initializeFeed e =>
      rw [StaysInOrder, statesDuring, List.forall_mem_singleton]
      exact inOrder_initializeFeed_iff hs
  | update e e' =>
      rw [StaysInOrder, statesDuring, List.forall_mem_cons, List.forall_mem_singleton,
        TakesInOrder, ← inOrder_prepared_iff hs]
      exact and_congr_right fun hprepared => inOrder_update_iff hsynced.prepared hprepared
  | restart =>
      rw [StaysInOrder, statesDuring, List.forall_mem_singleton]
      exact iff_of_true .nil trivial

theorem Synced.next (hs : Synced s) {call : FeedCall}
    (h : (feedMachine cfg f).next s call = some t) : Synced t := by
  cases call with
  | initializeFeed e =>
      cases h
      exact hs.initializeFeed
  | update e e' =>
      cases h
      exact update_invariant hs Synced.initializeFeed fun _ => Synced.poll
  | restart =>
      cases h
      rfl

theorem mem_statesDuring {call : FeedCall} (h : (feedMachine cfg f).next s call = some t) :
    t ∈ statesDuring cfg f s call := by
  cases call with
  | initializeFeed e =>
      cases h
      exact List.mem_cons_self
  | update e e' =>
      cases h
      exact List.mem_cons_of_mem _ List.mem_cons_self
  | restart =>
      cases h
      exact List.mem_cons_self

end Order

/-- Over all sequences of calls and answers the buffer stays in order exactly if each call takes
over in order what it takes over. -/
theorem guarded_staysInOrder_iff (cfg : CandleConfig) (f : SymbolFeed) (table : CandleTable)
    (calls : List FeedCall) :
    (feedMachine cfg f).Guarded (StaysInOrder cfg f) (.new table) calls ↔
      (feedMachine cfg f).Guarded (TakesInOrder cfg f) (.new table) calls := by
  have hnew : Synced (.new table) ∧ InOrder (.new table) := ⟨rfl, .nil⟩
  have hstep : ∀ s call t, Synced s ∧ InOrder s → StaysInOrder cfg f s call →
      (feedMachine cfg f).next s call = some t → Synced t ∧ InOrder t :=
    fun s call t hs hstays hnext => ⟨hs.1.next hnext, hstays t (mem_statesDuring hnext)⟩
  constructor
  · intro h
    exact h.imp_of_invariant _ hstep (fun s call hs => (staysInOrder_iff hs.1 hs.2 call).1) hnew
  · intro h
    exact h.imp_of_invariant _
      (fun s call t (hs : Synced s ∧ InOrder s) htakes =>
        hstep s call t hs ((staysInOrder_iff hs.1 hs.2 call).2 htakes))
      (fun s call hs => (staysInOrder_iff hs.1 hs.2 call).2) hnew

/-! ### A gap -/

instance decidableInOrder (s : FeedState) : Decidable (InOrder s) :=
  inferInstanceAs (Decidable (StrictlyAscends Candle.timestamp s.candleBuffer))

instance decidableStaysInOrder (cfg : CandleConfig) (f : SymbolFeed) (s : FeedState)
    (call : FeedCall) : Decidable (StaysInOrder cfg f s call) :=
  inferInstanceAs (Decidable (∀ t ∈ statesDuring cfg f s call, InOrder t))

/-- A feed of one-minute candles. -/
def SymbolFeed.btcMinutes : SymbolFeed := ⟨"BTC/USDT", "1m", .binance⟩

/-- A candle of the feed. -/
def minuteCandle (timestamp : Timestamp) : Candle :=
  ⟨⟨"BTC", "USDT", .binance, .spot⟩, timestamp, "1m", 100, 101, 99, 100, 1, by decide +kernel⟩

/-- The exchange has the first candle. -/
def envFirst : FeedEnv where
  now := 60
  getOhlcv _ := .ok ⟨[minuteCandle 0], by decide +kernel⟩

/-- The poll brings the candle of the fifth minute, the request for the gap all that are missing
and that candle again. -/
def envGap : FeedEnv where
  now := 360
  getOhlcv r :=
    if r.limit = 10 then .ok ⟨[minuteCandle 300], by decide +kernel⟩
    else .ok ⟨[60, 120, 180, 240, 300].map minuteCandle, by decide +kernel⟩

/-- The candle after a gap is appended twice. -/
theorem not_forall_staysInOrder :
    ¬ ∀ (cfg : CandleConfig) (f : SymbolFeed) (table : CandleTable) (calls : List FeedCall),
      (feedMachine cfg f).Guarded (StaysInOrder cfg f) (.new table) calls := by
  intro h
  have hgap := h .exact .btcMinutes .empty [.initializeFeed envFirst, .update envFirst envGap]
  revert hgap
  decide +kernel

end Sgr
