import Mathlib.Data.Rat.Defs
import Sgr.Collection.Dict
import Sgr.Concurrency.Machine
import Sgr.Core.SymbolText
import Sgr.MarketData.CandleStore

/-!
# Subscriptions of the market data engine

`MarketDataEngine` of `sgr/market_data/engine.py` has a feed for each subscribed key and polls it
in a task of its own. `start` and `reconcile_subscriptions` first await the initialization of
feeds and then create the tasks; other calls run in between.
-/

open Collection Concurrency

namespace Sgr

/-! ### Keys -/

/-- `rsplit(":", 1)`, of a text with a colon. -/
def rsplitColon (text : String) : String × String :=
  let parts := splitFirst ':' text.toList.reverse
  (String.ofList parts.2.reverse, String.ofList parts.1.reverse)

/-- The key of a feed. -/
def feedKey (symbol timeframe : String) : String := symbol ++ ":" ++ timeframe

def SymbolFeed.key (f : SymbolFeed) : String := feedKey f.symbol f.timeframe

/-- The feed that `reconcile_subscriptions` creates for a key. -/
def feedOfKey (exchangeId : ExchangeID) (key : String) : SymbolFeed where
  symbol := (rsplitColon key).1
  timeframe := (rsplitColon key).2
  exchangeId := exchangeId

theorem colon_mem_feedKey (symbol timeframe : String) :
    ':' ∈ (feedKey symbol timeframe).toList := by
  rw [feedKey, String.toList_append, String.toList_append]
  exact List.mem_append_left _ (List.mem_append_right _ List.mem_cons_self)

theorem key_feedOfKey {exchangeId : ExchangeID} {key : String} (h : ':' ∈ key.toList) :
    (feedOfKey exchangeId key).key = key := by
  have hsplit := splitFirst_fst_append (List.mem_reverse.2 h)
  have hkey : (feedOfKey exchangeId key).key.toList =
      (splitFirst ':' key.toList.reverse).2.reverse ++
        ':' :: (splitFirst ':' key.toList.reverse).1.reverse := by
    simp only [SymbolFeed.key, feedKey, feedOfKey, rsplitColon, String.toList_append,
      String.toList_ofList, List.append_assoc]
    rfl
  rw [← String.toList_inj, hkey]
  simpa using congrArg List.reverse hsplit

/-! ### The engine -/

/-- `_POLL_INTERVALS`, with its default. -/
def pollInterval : String → ℚ
  | "1m" => 55
  | "3m" => 170
  | "5m" => 290
  | "15m" => 890
  | "30m" => 1790
  | "1h" => 3590
  | "4h" => 14390
  | "1d" => 86390
  | _ => 60

/-- `_POLL_START_STAGGER_SECONDS`. -/
def pollStartStaggerSeconds : ℚ := 1 / 2

/-- A task that runs `_poll_loop`, with the key in its name. -/
structure PollTask where
  id : ℕ
  key : String
  feed : SymbolFeed
  interval : ℚ
  initialDelay : ℚ
  deriving DecidableEq

/-- `MarketDataEngine`, with the poll tasks that have not been cancelled. -/
structure MarketDataEngine where
  feeds : Dict String SymbolFeed
  tasks : Dict String ℕ
  running : Bool
  /-- The feature store has its Redis connection. -/
  connected : Bool
  live : List PollTask
  /-- The identity of the next task. -/
  nextId : ℕ

namespace MarketDataEngine

/-- An engine without subscriptions. -/
def new (connected : Bool) : MarketDataEngine := ⟨Dict.empty, Dict.empty, false, connected, [], 0⟩

/-- `subscribe`, for one timeframe. -/
def subscribe (e : MarketDataEngine) (f : SymbolFeed) : MarketDataEngine :=
  if (e.feeds.get? f.key).isSome then e else { e with feeds := e.feeds.set f.key f }

/-- `asyncio.create_task` of a poll loop. -/
def createTask (e : MarketDataEngine) (key : String) (feed : SymbolFeed) (stagger : ℚ) :
    MarketDataEngine :=
  { e with
    tasks := e.tasks.set key e.nextId
    live := e.live ++ [⟨e.nextId, key, feed, pollInterval feed.timeframe, stagger⟩]
    nextId := e.nextId + 1 }

/-- The loops that create the tasks of some feeds. -/
def createTasks : ℚ → List (String × SymbolFeed) → MarketDataEngine → MarketDataEngine
  | _, [], e => e
  | stagger, (key, feed) :: rest, e =>
      createTasks (stagger + pollStartStaggerSeconds) rest (e.createTask key feed stagger)

/-- A key is removed: its task is cancelled. -/
def removeFeed (e : MarketDataEngine) (key : String) : MarketDataEngine :=
  { e with
    feeds := e.feeds.erase key
    tasks := e.tasks.erase key
    live :=
      match e.tasks.get? key with
      | some id => e.live.filter fun t => t.id ≠ id
      | none => e.live }

/-- The keys of the target. -/
def targetKeys (target : List (String × String)) : List String :=
  (target.map fun p => feedKey p.1 p.2).dedup

/-- `current_keys - target_keys`. -/
def toRemove (e : MarketDataEngine) (target : List (String × String)) : List String :=
  (e.feeds.entries.map Prod.fst).filter fun k => k ∉ targetKeys target

/-- `target_keys - current_keys`. -/
def toAdd (e : MarketDataEngine) (target : List (String × String)) : List String :=
  (targetKeys target).filter fun k => (e.feeds.get? k).isNone

/-- `reconcile_subscriptions` up to the initialization of the new feeds. -/
def reconcileFeeds (e : MarketDataEngine) (target : List (String × String))
    (exchangeId : ExchangeID) : MarketDataEngine :=
  let removed := (e.toRemove target).foldl removeFeed e
  { removed with
    feeds := (e.toAdd target).foldl (fun d k => d.set k (feedOfKey exchangeId k)) removed.feeds }

end MarketDataEngine

/-- A call that is suspended: `start` while the feature store connects or while it initializes the
feeds, and `reconcile_subscriptions` while it initializes the new feeds. -/
inductive SuspendedCall
  | connecting
  | starting
  | adding (newFeeds : List SymbolFeed)
  deriving DecidableEq

/-- The engine with its suspended calls. -/
structure EngineCalls where
  engine : MarketDataEngine
  suspended : List SuspendedCall

/-- What happens to the engine. A suspended call is known by its place; the connection of the
feature store can fail, the initialization of feeds cannot. -/
inductive EngineEvent
  | start
  | reconcile (target : List (String × String)) (exchangeId : ExchangeID)
  | resumed (i : ℕ) (raised : Bool)

namespace EngineCalls

/-- `start` with a connected feature store, up to the initialization of the feeds. -/
def beginStart (s : EngineCalls) : EngineCalls where
  engine := { s.engine with running := true, connected := true }
  suspended :=
    if s.engine.feeds.entries.isEmpty then s.suspended else s.suspended ++ [.starting]

/-- A call of `start`. -/
def start (s : EngineCalls) : EngineCalls :=
  if s.engine.connected then s.beginStart
  else { s with suspended := s.suspended ++ [.connecting] }

/-- A call of `reconcile_subscriptions`. -/
def reconcile (s : EngineCalls) (target : List (String × String)) (exchangeId : ExchangeID) :
    EngineCalls where
  engine := s.engine.reconcileFeeds target exchangeId
  suspended :=
    if s.engine.running && !(s.engine.toAdd target).isEmpty then
      s.suspended ++ [.adding ((s.engine.toAdd target).map (feedOfKey exchangeId))]
    else s.suspended

/-- A suspended call goes on. -/
def resume (s : EngineCalls) (i : ℕ) (raised : Bool) : SuspendedCall → EngineCalls
  | .connecting =>
      if raised then { s with suspended := s.suspended.eraseIdx i }
      else beginStart { s with suspended := s.suspended.eraseIdx i }
  | .starting =>
      { engine := s.engine.createTasks 0 s.engine.feeds.entries
        suspended := s.suspended.eraseIdx i }
  | .adding newFeeds =>
      { engine := s.engine.createTasks 0 (newFeeds.map fun f => (f.key, f))
        suspended := s.suspended.eraseIdx i }

/-- An engine with some subscriptions on which nothing has been called. -/
def init (connected : Bool) (subscriptions : List SymbolFeed) : EngineCalls :=
  ⟨subscriptions.foldl MarketDataEngine.subscribe (.new connected), []⟩

end EngineCalls

/-- Calls of `start` and `reconcile_subscriptions` in any interleaving. -/
def subscriptionMachine : Machine EngineCalls EngineEvent where
  next s
    | .start => some s.start
    | .reconcile target exchangeId => some (s.reconcile target exchangeId)
    | .resumed i raised => (s.suspended[i]?).map (s.resume i raised)

end Sgr
