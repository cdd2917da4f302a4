import Sgr.Collection.Series
import Sgr.Concurrency.Machine
import Sgr.MarketData.CandleStore

/-!
# The feed of a market

`SymbolFeed` of `sgr/market_data/engine.py` keeps the latest candles of a market. It is filled by
`initialize`, from the table and from the exchange; `update` then appends what is newer than the
last candle, after it has asked the exchange again for what is missing in between.
-/

open Collection Concurrency

namespace Sgr

/-- How `get_ohlcv` of an adapter fails. -/
inductive FetchError
  | exchangeError
  | otherError
  deriving DecidableEq

/-- What `get_ohlcv` of an adapter is asked for. -/
structure OhlcvRequest where
  since : Option Timestamp
  limit : ℕ
  deriving DecidableEq

/-- The candles of an answer, in the order of their times. -/
structure Fetched where
  candles : List Candle
  ascends : Ascends Candle.timestamp candles

/-- What a call of a feed meets: whether Redis says that the exchange has banned it, whether the
stored candles cannot be read, the time, the answers of the adapter and which chunks of candles
the database refuses. -/
structure FeedEnv where
  banned : Bool := false
  readFails : Bool := false
  now : Timestamp
  getOhlcv : OhlcvRequest → Except FetchError Fetched
  persistFails : ℕ → Bool := fun _ => false

/-- What changes of a `SymbolFeed`, and the table it writes to. -/
structure FeedState where
  candleBuffer : List Candle
  lastProcessedTs : Option Timestamp
  initialized : Bool
  table : CandleTable

/-- A feed that has not been initialized. -/
def FeedState.new (table : CandleTable) : FeedState := ⟨[], none, false, table⟩

/-! ### Gaps -/

/-- `DataGap`. -/
structure DataGap where
  symbol : Symbol
  timeframe : String
  gapStart : Timestamp
  gapEnd : Timestamp
  missingCandles : ℕ
  deriving DecidableEq

/-- `_TIMESTAMP_TOLERANCE_SECONDS`. -/
def timestampToleranceSeconds : ℤ := 5

/-- `GapDetector.detect`. -/
def detect (timeframe : String) (existing incoming : List Candle) : List DataGap :=
  match existing.getLast?, incoming.head? with
  | some lastKnown, some firstNew =>
      let barSeconds : ℤ := timeframeToSeconds timeframe
      let expectedNext := lastKnown.timestamp + barSeconds
      let actualNext := firstNew.timestamp
      if |actualNext - expectedNext| ≤ timestampToleranceSeconds then []
      else if expectedNext + timestampToleranceSeconds < actualNext then
        let missing := (actualNext - expectedNext) / barSeconds
        if 0 < missing then
          [{ symbol := lastKnown.symbol
             timeframe := timeframe
             gapStart := expectedNext
             gapEnd := actualNext
             missingCandles := missing.toNat }]
        else []
      else []
  | _, _ => []

/-- The request for the candles of a gap. -/
def DataGap.request (gap : DataGap) : OhlcvRequest := ⟨some gap.gapStart, gap.missingCandles + 5⟩

/-- The buffer with the candles that fill a gap. -/
def fillGap (buffer fill : List Candle) : List Candle :=
  if fill.isEmpty then buffer
  else latestByTime Candle.timestamp (byTime Candle.timestamp (buffer ++ fill))

/-- `_handle_gaps`, and whether it raises. -/
def handleGaps (getOhlcv : OhlcvRequest → Except FetchError Fetched) :
    List DataGap → List Candle → List Candle × Bool
  | [], buffer => (buffer, false)
  | gap :: gaps, buffer =>
      match getOhlcv gap.request with
      | .ok fill => handleGaps getOhlcv gaps (fillGap buffer fill.candles)
      | .error .exchangeError => handleGaps getOhlcv gaps buffer
      | .error .otherError => (buffer, true)

/-! ### The feed -/

/-- `_merge_and_dedupe`. -/
def mergeAndDedupe (dbCandles fresh : List Candle) : List Candle :=
  byTime Candle.timestamp (latestByTime Candle.timestamp (dbCandles ++ fresh))

/-- The candles that are newer than the last one. -/
def newCandles (lastProcessedTs : Option Timestamp) (fetched : List Candle) : List Candle :=
  match lastProcessedTs with
  | none => fetched
  | some last => fetched.filter fun c => last < c.timestamp

/-- The request of `update`. -/
def pollRequest (s : FeedState) : OhlcvRequest := ⟨s.lastProcessedTs, 10⟩

namespace SymbolFeed

variable (cfg : CandleConfig) (f : SymbolFeed)

/-- The stored candles that `initialize` goes on from. -/
def storedCandles (e : FeedEnv) (s : FeedState) : List Candle :=
  if e.readFails then [] else f.dbCandles cfg s.table e.now

/-- The request of `initialize`. -/
def initialRequest (dbCandles : List Candle) : OhlcvRequest :=
  ⟨dbCandles.getLast?.map Candle.timestamp, f.maxBuffer⟩

/-- The candles that `initialize` starts with. -/
def initialCandles (dbCandles fetched : List Candle) : List Candle :=
  match dbCandles.getLast? with
  | none => fetched
  | some last => mergeAndDedupe dbCandles (fetched.filter fun c => last.timestamp < c.timestamp)

/-- `initialize`. -/
def initializeFeed (e : FeedEnv) (s : FeedState) : FeedState :=
  if e.banned then s
  else
    let dbCandles := f.storedCandles cfg e s
    match e.getOhlcv (f.initialRequest dbCandles) with
    | .error _ => s
    | .ok fetched =>
        let candles := initialCandles dbCandles fetched.candles
        match candles.getLast? with
        | none => s
        | some last =>
            { candleBuffer := candles.rtake f.maxBuffer
              lastProcessedTs := some last.timestamp
              initialized := true
              table := persistCandles cfg e.persistFails candles s.table }

/-- The gaps that `update` finds before the new candles. -/
def gapsBefore (s : FeedState) (new : List Candle) : List DataGap :=
  detect f.timeframe (s.candleBuffer.rtake 5) new

/-- `update` of an initialized feed. -/
def poll (e : FeedEnv) (s : FeedState) : FeedState :=
  if e.banned then s
  else
    match e.getOhlcv (pollRequest s) with
    | .error _ => s
    | .ok fetched =>
        let new := newCandles s.lastProcessedTs fetched.candles
        match new.getLast? with
        | none => s
        | some last =>
            match handleGaps e.getOhlcv (f.gapsBefore s new) s.candleBuffer with
            | (buffer, true) => { s with candleBuffer := buffer }
            | (buffer, false) =>
                { candleBuffer := (buffer ++ new).rtake f.maxBuffer
                  lastProcessedTs := some last.timestamp
                  initialized := s.initialized
                  table := persistCandles cfg e.persistFails new s.table }

/-- A feed as `update` polls it: initialized, if that succeeds. -/
def prepared (e : FeedEnv) (s : FeedState) : FeedState :=
  if s.initialized then s else f.initializeFeed cfg e s

/-- `update`. -/
def update (e e' : FeedEnv) (s : FeedState) : FeedState :=
  if (f.prepared cfg e s).initialized then f.poll cfg e' (f.prepared cfg e s)
  else f.prepared cfg e s

end SymbolFeed

/-- A call of a feed. An `update` meets one thing when it initializes the feed and another when
it polls. A restarted process has a new feed over the same table. -/
inductive FeedCall
  | initializeFeed (e : FeedEnv)
  | update (e e' : FeedEnv)
  | restart

/-- The calls of a feed, one after the other. -/
def feedMachine (cfg : CandleConfig) (f : SymbolFeed) : Machine FeedState FeedCall where
  next s
    | .initializeFeed e => some (f.initializeFeed cfg e s)
    | .update e e' => some (f.update cfg e e' s)
    | .restart => some (.new s.table)

/-! ### What a call does -/

section Calls

variable {cfg : CandleConfig} {f : SymbolFeed} {e e' : FeedEnv} {s t : FeedState}

/-- At most one gap is found. -/
theorem detect_eq_nil_or_singleton (timeframe : String) (existing incoming : List Candle) :
    detect timeframe existing incoming = [] ∨
      ∃ gap, detect timeframe existing incoming = [gap] := by
  unfold detect
  split
  next =>
    dsimp only
    split
    next => exact .inl rfl
    next =>
      split
      next =>
        split
        next => exact .inr ⟨_, rfl⟩
        next => exact .inl rfl
      next => exact .inl rfl
  next => exact .inl rfl

/-- How an initialization ends. -/
inductive InitializeStep (cfg : CandleConfig) (f : SymbolFeed) (e : FeedEnv) (s : FeedState) :
    FeedState → Prop
  | stays : InitializeStep cfg f e s s
  | fills {fetched : Fetched} {last : Candle} (hbanned : e.banned = false)
      (hanswer : e.getOhlcv (f.initialRequest (f.storedCandles cfg e s)) = .ok fetched)
      (hlast : (SymbolFeed.initialCandles (f.storedCandles cfg e s) fetched.candles).getLast? =
        some last) :
      InitializeStep cfg f e s
        { candleBuffer :=
            (SymbolFeed.initialCandles (f.storedCandles cfg e s) fetched.candles).rtake f.maxBuffer
          lastProcessedTs := some last.timestamp
          initialized := true
          table := persistCandles cfg e.persistFails
            (SymbolFeed.initialCandles (f.storedCandles cfg e s) fetched.candles) s.table }

theorem initializeStep (cfg : CandleConfig) (f : SymbolFeed) (e : FeedEnv) (s : FeedState) :
    InitializeStep cfg f e s (f.initializeFeed cfg e s) := by
  unfold SymbolFeed.initializeFeed
  split
  next => exact .stays
  next hbanned =>
    dsimp only
    split
    next => exact .stays
    next fetched hanswer =>
      split
      next => exact .stays
      next last hlast => exact .fills (Bool.eq_false_iff.2 hbanned) hanswer hlast

/-- How a poll ends. -/
inductive PollStep (cfg : CandleConfig) (f : SymbolFeed) (e : FeedEnv) (s : FeedState) :
    FeedState → Prop
  | stays : PollStep cfg f e s s
  | appends {fetched : Fetched} {last : Candle} {buffer : List Candle}
      (hbanned : e.banned = false) (hanswer : e.getOhlcv (pollRequest s) = .ok fetched)
      (hlast : (newCandles s.lastProcessedTs fetched.candles).getLast? = some last)
      (hgaps : handleGaps e.getOhlcv
        (f.gapsBefore s (newCandles s.lastProcessedTs fetched.candles)) s.candleBuffer =
          (buffer, false)) :
      PollStep cfg f e s
        { candleBuffer := (buffer ++ newCandles s.lastProcessedTs fetched.candles).rtake f.maxBuffer
          lastProcessedTs := some last.timestamp
          initialized := s.initialized
          table := persistCandles cfg e.persistFails
            (newCandles s.lastProcessedTs fetched.candles) s.table }

theorem fillGap_strictlyAscends {buffer : List Candle} (fill : List Candle)
    (h : StrictlyAscends Candle.timestamp buffer) :
    StrictlyAscends Candle.timestamp (fillGap buffer fill) := by
  unfold fillGap
  split
  next => exact h
  next => exact (ascends_byTime _).strictlyAscends_latestByTime

theorem mem_of_mem_fillGap {buffer fill : List Candle} {c : Candle} (h : c ∈ fillGap buffer fill) :
    c ∈ buffer ∨ c ∈ fill := by
  unfold fillGap at h
  split at h
  next => exact .inl h
  next => exact List.mem_append.1 (mem_byTime.1 (mem_of_mem_latestByTime h))

/-- A filled buffer has the times of the buffer and those of the filling candles. -/
theorem forall_fillGap_iff {p : Timestamp → Prop} {buffer fill : List Candle} :
    (∀ c ∈ fillGap buffer fill, p c.timestamp) ↔
      (∀ c ∈ buffer, p c.timestamp) ∧ ∀ c ∈ fill, p c.timestamp := by
  unfold fillGap
  split
  next hnil =>
    rw [List.isEmpty_iff.1 hnil]
    simp
  next =>
    rw [forall_latestByTime_iff, ← List.forall_mem_append]
    exact forall_congr' fun c => imp_congr_left mem_byTime

section Gaps

variable {getOhlcv : OhlcvRequest → Except FetchError Fetched} {gaps : List DataGap}
  {buffer filled : List Candle} {raised : Bool}

theorem handleGaps_strictlyAscends (h : handleGaps getOhlcv gaps buffer = (filled, raised))
    (hbuffer : StrictlyAscends Candle.timestamp buffer) :
    StrictlyAscends Candle.timestamp filled := by
  induction gaps generalizing buffer with
  | nil =>
      cases h
      exact hbuffer
  | cons gap gaps ih =>
      rw [handleGaps] at h
      split at h
      next fill _ => exact ih h (fillGap_strictlyAscends fill.candles hbuffer)
      next => exact ih h hbuffer
      next =>
        cases h
        exact hbuffer

/-- The candles that the answers to the requests for some gaps have. -/
def IsFill (getOhlcv : OhlcvRequest → Except FetchError Fetched) (gaps : List DataGap)
    (c : Candle) : Prop :=
  ∃ gap ∈ gaps, ∃ fill, getOhlcv gap.request = .ok fill ∧ c ∈ fill.candles

theorem isFill_cons_of_ok {gap : DataGap} {fill : Fetched} {c : Candle}
    (h : getOhlcv gap.request = .ok fill) :
    IsFill getOhlcv (gap :: gaps) c ↔ c ∈ fill.candles ∨ IsFill getOhlcv gaps c := by
  simp only [IsFill, List.exists_mem_cons_iff, h, Except.ok.injEq, exists_eq_left']

theorem isFill_cons_of_error {gap : DataGap} {error : FetchError} {c : Candle}
    (h : getOhlcv gap.request = .error error) :
    IsFill getOhlcv (gap :: gaps) c ↔ IsFill getOhlcv gaps c := by
  simp only [IsFill, List.exists_mem_cons_iff, h, reduceCtorEq, false_and, exists_false, false_or]

theorem mem_handleGaps (h : handleGaps getOhlcv gaps buffer = (filled, raised)) {c : Candle}
    (hc : c ∈ filled) : c ∈ buffer ∨ IsFill getOhlcv gaps c := by
  induction gaps generalizing buffer with
  | nil =>
      cases h
      exact .inl hc
  | cons gap gaps ih =>
      rw [handleGaps] at h
      split at h
      next fill hfill =>
        rw [isFill_cons_of_ok hfill]
        rcases ih h with hc | hc
        · exact (mem_of_mem_fillGap hc).imp_right .inl
        · exact .inr (.inr hc)
      next herror =>
        rw [isFill_cons_of_error herror]
        exact ih h
      next =>
        cases h
        exact .inl hc

/-- Gaps that are handled leave the times of the buffer and those of the filling candles. -/
theorem forall_handleGaps_iff {p : Timestamp → Prop}
    (h : handleGaps getOhlcv gaps buffer = (filled, false)) :
    (∀ c ∈ filled, p c.timestamp) ↔
      (∀ c ∈ buffer, p c.timestamp) ∧ ∀ c, IsFill getOhlcv gaps c → p c.timestamp := by
  induction gaps generalizing buffer with
  | nil =>
      cases h
      simp [IsFill]
  | cons gap gaps ih =>
      rw [handleGaps] at h
      split at h
      next fill hfill =>
        simp only [ih h, forall_fillGap_iff, isFill_cons_of_ok hfill, or_imp, forall_and, and_assoc]
      next herror => simp only [ih h, isFill_cons_of_error herror]
      next => cases h

/-- A single gap leaves the buffer as it is when its request raises. -/
theorem eq_of_handleGaps_raises (hgaps : gaps = [] ∨ ∃ gap, gaps = [gap])
    (h : handleGaps getOhlcv gaps buffer = (filled, true)) : filled = buffer := by
  obtain rfl | ⟨gap, rfl⟩ := hgaps
  · cases h
  · rw [handleGaps] at h
    split at h
    next => cases h
    next => cases h
    next =>
      cases h
      rfl

end Gaps

theorem pollStep (cfg : CandleConfig) (f : SymbolFeed) (e : FeedEnv) (s : FeedState) :
    PollStep cfg f e s (f.poll cfg e s) := by
  unfold SymbolFeed.poll
  split
  next => exact .stays
  next hbanned =>
    split
    next => exact .stays
    next fetched hanswer =>
      dsimp only
      split
      next => exact .stays
      next last hlast =>
        split
        next buffer hgaps =>
          rw [eq_of_handleGaps_raises (detect_eq_nil_or_singleton _ _ _) hgaps]
          exact .stays
        next buffer hgaps => exact .appends (Bool.eq_false_iff.2 hbanned) hanswer hlast hgaps

/-- What both halves of an update preserve, the update preserves. -/
theorem update_invariant {I : FeedState → Prop} (hs : I s)
    (hinit : I s → I (f.initializeFeed cfg e s)) (hpoll : ∀ t, I t → I (f.poll cfg e' t)) :
    I (f.update cfg e e' s) := by
  have hprepared : I (f.prepared cfg e s) := by
    unfold SymbolFeed.prepared
    split
    next => exact hs
    next => exact hinit hs
  unfold SymbolFeed.update
  split
  next => exact hpoll _ hprepared
  next => exact hprepared

/-- No call is refused. -/
theorem exists_feedMachine_run (cfg : CandleConfig) (f : SymbolFeed) (s : FeedState)
    (calls : List FeedCall) : ∃ t, (feedMachine cfg f).run s calls = some t := by
  induction calls generalizing s with
  | nil => exact ⟨s, rfl⟩
  | cons call calls ih =>
      cases call with
      | initializeFeed e => exact ih (f.initializeFeed cfg e s)
      | update e e' => exact ih (f.update cfg e e' s)
      | restart => exact ih (.new s.table)

end Calls

end Sgr
