import Mathlib.Data.Rat.Floor
import Sgr.Collection.Expiring
import Sgr.Concurrency.Since
import Sgr.Core.RedisKeys
import Sgr.MarketData.Feed
import Sgr.Risk.Engine.Evaluate
import Sgr.Risk.KillSwitch
import Sgr.Strategy.SignalEngine

/-!
# What the processes share in Redis

The clients of Redis: `FeatureStore` of `sgr/market_data/feature_store.py`, the caches of
`sgr/risk/metrics_cache.py`, `sgr/market_data/ticker_cache.py`, `sgr/monitoring/worker_health.py`
and `sgr/monitoring/worker_metrics_bridge.py`, the state of `sgr/risk/kill_switch.py`, the ban of
an exchange of `sgr/market_data/engine.py` and the scores of `sgr/sentiment/engine.py`. The tasks
of any number of workers run them in any order. A value stands for its JSON text, and what Redis
has not executed is not in a run.
-/

open Collection Concurrency

namespace Sgr

/-- What `publish_worker_health` writes, without its time. -/
structure WorkerHealth where
  riskEngineAvailable : Bool
  preflightAvailable : Bool
  exchangeConnected : Option Bool
  marketDataActive : Bool
  deriving DecidableEq, Repr

/-- `TickerData`. -/
structure TickerData where
  symbol : String
  bid : ℚ
  ask : ℚ
  last : ℚ
  volume24h : ℚ
  change24hPct : ℚ
  timestamp : Timestamp
  deriving DecidableEq, Repr

/-- The values; what no reader below decodes is bytes. -/
inductive RedisValue
  | features (features : FeatureSet)
  | regime (regime : MarketRegime)
  | riskMetrics (metrics : RiskMetrics)
  | killSwitchState (state : KillSwitchState)
  | workerHealth (health : WorkerHealth)
  | ticker (ticker : TickerData)
  | bannedUntil (ts : ℚ)
  | bytes (payload : String)

namespace RedisValue

/-- The features that a value decodes to. -/
def features? : RedisValue → Option FeatureSet
  | features f => some f
  | _ => none

/-- The regime that a value decodes to. -/
def regime? : RedisValue → Option MarketRegime
  | regime r => some r
  | _ => none

/-- The metrics that a value decodes to. -/
def riskMetrics? : RedisValue → Option RiskMetrics
  | riskMetrics m => some m
  | _ => none

/-- The state that a value decodes to. -/
def killSwitchState? : RedisValue → Option KillSwitchState
  | killSwitchState s => some s
  | _ => none

/-- The health that a value decodes to. -/
def workerHealth? : RedisValue → Option WorkerHealth
  | workerHealth h => some h
  | _ => none

/-- The ticker that a value decodes to. -/
def ticker? : RedisValue → Option TickerData
  | ticker t => some t
  | _ => none

/-- The time that a value decodes to. -/
def bannedUntil? : RedisValue → Option ℚ
  | bannedUntil ts => some ts
  | _ => none

end RedisValue

/-- The entries in Redis; the times are seconds, of one clock. -/
abbrev RedisStore := ExpiringStore String RedisValue ℚ

/-- What a reader makes of the value at its key; what it cannot decode is `none`. -/
def RedisStore.readAs {α : Type} (decode : RedisValue → Option α) (s : RedisStore) (k : RedisKey)
    (now : ℚ) : Option α :=
  (s.read k.text now).bind decode

/-! ### The feature store -/

/-- `_TTL_BY_TIMEFRAME`, with its default. -/
def ttlByTimeframe : String → ℕ
  | "1m" => 15 * 60
  | "3m" => 20 * 60
  | "5m" => 60 * 60
  | "15m" => 2 * 60 * 60
  | "30m" => 3 * 60 * 60
  | "1h" => 6 * 60 * 60
  | "2h" => 12 * 60 * 60
  | "4h" => 24 * 60 * 60
  | "6h" => 36 * 60 * 60
  | "1d" => 7 * 24 * 60 * 60
  | _ => 60 * 60

/-- How long the entries of a time frame stay. -/
def ColonFree.ttl (timeframe : ColonFree) : ℚ := ttlByTimeframe timeframe.text

/-- The text of a whole number. -/
def ColonFree.ofInt (n : ℤ) : ColonFree where
  text := toString n
  colonFree := by
    have hdigits (m : ℕ) : ':' ∉ (Nat.repr m).toList := by
      intro h
      rw [Nat.toList_repr] at h
      exact absurd (Nat.isDigit_of_mem_toDigits (by decide) (by decide) h) (by decide)
    cases n with
    | ofNat m => exact hdigits m
    | negSucc m =>
        intro h
        have hminus : toString (Int.negSucc m) = "-" ++ Nat.repr (m + 1) := rfl
        rw [hminus, String.toList_append] at h
        rcases List.mem_append.1 h with h | h
        · exact absurd h (by decide)
        · exact hdigits _ h

/-- A symbol with its exchange, as the readers name it. -/
def Symbol.symbolKey (s : Symbol) : String := s.exchange.value ++ ":" ++ s.ccxtSymbol

/-- Features whose time frame has no colon. -/
structure StoredFeatures where
  features : FeatureSet
  colonFree : ':' ∉ features.timeframe.toList

namespace StoredFeatures

variable (f : StoredFeatures)

/-- The time frame. -/
def timeframe : ColonFree := ⟨f.features.timeframe, f.colonFree⟩

/-- The name of the symbol. -/
def symbolKey : String := f.features.symbol.symbolKey

/-- `cache_key`. -/
def cacheKey : RedisKey :=
  .featuresAt f.features.symbol.exchange f.features.symbol.ccxtSymbol f.timeframe
    (.ofInt f.features.timestamp)

/-- `latest_key`. -/
def latestKey : RedisKey := .latestFeatures f.symbolKey f.timeframe

end StoredFeatures

/-- `get_latest`. -/
def getLatest (s : RedisStore) (symbolKey : String) (timeframe : ColonFree) (now : ℚ) :
    Option FeatureSet :=
  s.readAs RedisValue.features? (.latestFeatures symbolKey timeframe) now

/-- `get_latest_regime`. -/
def getLatestRegime (s : RedisStore) (symbolKey : String) (timeframe : ColonFree) (now : ℚ) :
    Option MarketRegime :=
  s.readAs RedisValue.regime? (.latestRegime symbolKey timeframe) now

/-! ### The other clients -/

/-- `ExchangeBannedError`, with the time at which it was raised. -/
structure ExchangeBannedError where
  bannedUntil : ℚ
  raisedAt : ℚ
  deriving DecidableEq, Repr

/-- `retry_after_seconds`. -/
def ExchangeBannedError.retryAfterSeconds (error : ExchangeBannedError) : ℚ :=
  max (error.bannedUntil - error.raisedAt) 0

/-- The calls that write one entry. -/
inductive ClientWrite
  | publishRiskMetrics (tradingMode : TradingMode) (metrics : RiskMetrics)
      (tenantId : Option String)
  | publishKillSwitch (tradingMode : TradingMode) (state : KillSwitchState)
      (tenantId : Option String)
  | publishWorkerHealth (tradingMode : TradingMode) (health : WorkerHealth)
      (tenantId : Option String)
  | publishWorkerMetrics (tenantId : String) (tradingMode : TradingMode) (snapshot : String)
  | publishTicker (ticker : TickerData)
  | recordExchangeBan (exchange : ExchangeID) (error : ExchangeBannedError)
  | cacheSentiment (symbol payload : String) (ttl : ℕ)

namespace ClientWrite

/-- The key that is written. -/
def key : ClientWrite → RedisKey
  | publishRiskMetrics tradingMode _ tenantId => .riskMetrics tenantId tradingMode
  | publishKillSwitch tradingMode _ tenantId => .killSwitchState tenantId tradingMode
  | publishWorkerHealth tradingMode _ tenantId => .workerHealth tenantId tradingMode
  | publishWorkerMetrics tenantId tradingMode _ => .workerMetrics tenantId tradingMode
  | publishTicker ticker => .ticker ticker.symbol
  | recordExchangeBan exchange _ => .exchangeBan exchange
  | cacheSentiment symbol _ _ => .sentiment symbol

/-- The value that is written. -/
def value : ClientWrite → RedisValue
  | publishRiskMetrics _ metrics _ => .riskMetrics metrics
  | publishKillSwitch _ state _ => .killSwitchState state
  | publishWorkerHealth _ health _ => .workerHealth health
  | publishWorkerMetrics _ _ snapshot => .bytes snapshot
  | publishTicker ticker => .ticker ticker
  | recordExchangeBan _ error => .bannedUntil error.bannedUntil
  | cacheSentiment _ payload _ => .bytes payload

/-- How long the entry stays; the state of a kill switch stays. -/
def ttl : ClientWrite → WithTop ℚ
  | publishRiskMetrics _ _ _ => ((120 : ℚ) : WithTop ℚ)
  | publishKillSwitch _ _ _ => ⊤
  | publishWorkerHealth _ _ _ => ((45 : ℚ) : WithTop ℚ)
  | publishWorkerMetrics _ _ _ => ((60 : ℚ) : WithTop ℚ)
  | publishTicker _ => ((60 : ℚ) : WithTop ℚ)
  | recordExchangeBan _ error =>
      (((max (⌊error.retryAfterSeconds⌋ + 1) 1 : ℤ) : ℚ) : WithTop ℚ)
  | cacheSentiment _ _ ttl => ((ttl : ℚ) : WithTop ℚ)

end ClientWrite

/-- `read_risk_metrics_from_redis`. -/
def readRiskMetrics (s : RedisStore) (tradingMode : TradingMode) (tenantId : Option String)
    (now : ℚ) : Option RiskMetrics :=
  s.readAs RedisValue.riskMetrics? (.riskMetrics tenantId tradingMode) now

/-- `read_kill_switch_state_from_redis`. -/
def readKillSwitchState (s : RedisStore) (tradingMode : TradingMode) (tenantId : Option String)
    (now : ℚ) : Option KillSwitchState :=
  s.readAs RedisValue.killSwitchState? (.killSwitchState tenantId tradingMode) now

/-- `read_worker_health_from_redis`. -/
def readWorkerHealth (s : RedisStore) (tradingMode : TradingMode) (tenantId : Option String)
    (now : ℚ) : Option WorkerHealth :=
  s.readAs RedisValue.workerHealth? (.workerHealth tenantId tradingMode) now

/-- `read_ticker_from_redis`. -/
def readTicker (s : RedisStore) (symbol : String) (now : ℚ) : Option TickerData :=
  s.readAs RedisValue.ticker? (.ticker symbol) now

/-- `_exchange_ban_remaining_seconds`. -/
def exchangeBanRemainingSeconds (s : RedisStore) (exchange : ExchangeID) (now : ℚ) : Option ℚ :=
  (s.readAs RedisValue.bannedUntil? (.exchangeBan exchange) now).bind fun ts =>
    if 0 < ts - now then some (ts - now) else none

/-! ### The runs -/

/-- What the tasks of the workers do. -/
inductive SharedEvent (ω : Type*)
  /-- The two commands of `save`. -/
  | saveAt (f : StoredFeatures)
  | saveLatest (f : StoredFeatures)
  /-- `invalidate`. -/
  | invalidate (symbolKey : String) (timeframe : ColonFree)
  /-- `process` reads the features and classifies the regime, if the caller knows none. -/
  | classify (task : ω) (symbolKey : String) (timeframe : ColonFree) (regime : MarketRegime)
  /-- `save_regime` of the same call of `process`; a failing call is passed over. -/
  | saveRegime (task : ω) (symbolKey : String) (timeframe : ColonFree) (regime : MarketRegime)
      (applied : Bool)
  | client (write : ClientWrite)
  /-- `stop` of `WorkerMetricsPublisher`. -/
  | stopMetrics (tenantId : String) (tradingMode : TradingMode)

/-- The entries, and what the tasks have classified and not yet saved. -/
structure SharedState (ω : Type*) where
  redis : RedisStore
  classified : ω → Option (String × ColonFree × MarketRegime)

/-- The start of an empty Redis. -/
def SharedState.start (ω : Type*) : SharedState ω := ⟨.empty, fun _ => none⟩

/-- The command of an event at a time. -/
def SharedEvent.command {ω : Type*} (now : ℚ) :
    SharedEvent ω → Option (StoreCommand RedisKey RedisValue ℚ)
  | saveAt f =>
      some (.set f.cacheKey (.features f.features) ((now + f.timeframe.ttl * 10 : ℚ) : WithTop ℚ))
  | saveLatest f =>
      some (.set f.latestKey (.features f.features) ((now + f.timeframe.ttl : ℚ) : WithTop ℚ))
  | invalidate symbolKey timeframe => some (.delete (.latestFeatures symbolKey timeframe))
  | classify _ _ _ _ => none
  | saveRegime _ symbolKey timeframe regime applied =>
      if applied then
        some (.set (.latestRegime symbolKey timeframe) (.regime regime)
          ((now + timeframe.ttl : ℚ) : WithTop ℚ))
      else none
  | client write => some (.set write.key write.value ((now : WithTop ℚ) + write.ttl))
  | stopMetrics tenantId tradingMode => some (.delete (.workerMetrics tenantId tradingMode))

section Machine

variable {ω : Type*} [DecidableEq ω]

/-- An event can come: a task saves the regime that it has classified, and a ban is recorded
after it was raised. -/
def SharedState.enables (s : SharedState ω) (now : ℚ) : SharedEvent ω → Bool
  | .saveRegime task symbolKey timeframe regime _ =>
      s.classified task = some (symbolKey, timeframe, regime)
  | .client (.recordExchangeBan _ error) => error.raisedAt ≤ now
  | _ => true

/-- What the tasks hold after an event. -/
def SharedState.classifiedAfter (s : SharedState ω) (now : ℚ) :
    SharedEvent ω → ω → Option (String × ColonFree × MarketRegime)
  | .classify task symbolKey timeframe regime =>
      Function.update s.classified task
        ((getLatest s.redis symbolKey timeframe now).map fun features =>
          (symbolKey, timeframe, cycleRegime features regime))
  | .saveRegime task _ _ _ _ => Function.update s.classified task none
  | _ => s.classified

/-- The state after an event. -/
def SharedState.apply (s : SharedState ω) (now : ℚ) (e : SharedEvent ω) : SharedState ω where
  redis := (e.command now).elim s.redis fun c => s.redis.exec (c.mapKey RedisKey.text)
  classified := s.classifiedAfter now e

/-- The tasks of all workers on one Redis; each event comes with its time. -/
def sharedRedis (ω : Type*) [DecidableEq ω] : Machine (SharedState ω) (ℚ × SharedEvent ω) where
  next s a := if s.enables a.1 a.2 then some (s.apply a.1 a.2) else none

variable {run : List (ℚ × SharedEvent ω)} {s : SharedState ω}

theorem next_eq_some_iff {a : ℚ × SharedEvent ω} {t : SharedState ω} :
    (sharedRedis ω).next s a = some t ↔ s.enables a.1 a.2 = true ∧ s.apply a.1 a.2 = t := by
  rw [sharedRedis, Option.ite_none_right_eq_some, Option.some_inj]

/-- A key holds what the last command on it has left. -/
theorem redis_eq_some_iff (hrun : (sharedRedis ω).run (.start ω) run = some s) (k : RedisKey)
    (entry : RedisValue × WithTop ℚ) :
    s.redis k.text = some entry ↔
      Since (fun _ a => ∃ c ∈ a.2.command a.1, c.key = k ∧ c.cell = some entry)
        (fun a => ∀ c ∈ a.2.command a.1, c.key ≠ k) run := by
  refine Since.iff_of_run (fun t : SharedState ω => t.redis k.text = some entry)
    (by simp [SharedState.start]) (fun as r a t _ hnext => ?_) hrun
  obtain ⟨-, rfl⟩ := next_eq_some_iff.1 hnext
  exact ExpiringStore.elim_exec_apply RedisKey.text_injective (a.2.command a.1) entry

/-- What is read at a key is what the last command on it has set, if it is not gone. -/
theorem read_eq_some_iff (hrun : (sharedRedis ω).run (.start ω) run = some s) (k : RedisKey)
    (value : RedisValue) (now : ℚ) :
    s.redis.read k.text now = some value ↔ ∃ expiry : WithTop ℚ, (now : WithTop ℚ) < expiry ∧
      Since (fun _ a => a.2.command a.1 = some (.set k value expiry))
        (fun a => ∀ c ∈ a.2.command a.1, c.key ≠ k) run := by
  rw [ExpiringStore.read_eq_some_iff]
  refine exists_congr fun expiry => ?_
  rw [and_comm, redis_eq_some_iff hrun]
  refine and_congr_right fun _ => ⟨fun h => ?_, fun h => ?_⟩
  · refine h.mono (fun _ a ⟨c, hc, hkey, hcell⟩ => ?_) fun _ => id
    cases c with
    | set k' value' expiry' =>
        cases hkey
        cases hcell
        exact hc
    | delete k' => cases hcell
  · exact h.mono (fun _ a hset => ⟨_, hset, rfl, rfl⟩) fun _ => id

/-! ### What the readers see -/

/-- The last write of a key by a client, and its time. -/
def LastWrite (k : RedisKey) (t : ℚ) (write : ClientWrite) :
    List (ℚ × SharedEvent ω) → Prop :=
  Since (fun _ a => a = (t, .client write)) fun a => ∀ write', a.2 = .client write' →
    write'.key ≠ k

/-- A key that only the calls of one entry are on. -/
def RedisKey.IsClients : RedisKey → Prop
  | .featuresAt _ _ _ _ => False
  | .latestFeatures _ _ => False
  | .latestRegime _ _ => False
  | .workerMetrics _ _ => False
  | _ => True

omit [DecidableEq ω] in
/-- The commands on such a key are those of the calls. -/
theorem command_on_clients {k : RedisKey} (hk : k.IsClients) {a : ℚ × SharedEvent ω}
    {c : StoreCommand RedisKey RedisValue ℚ} (hc : c ∈ a.2.command a.1) (hkey : c.key = k) :
    ∃ write, a.2 = .client write ∧ write.key = k ∧
      c = .set k write.value ((a.1 : WithTop ℚ) + write.ttl) := by
  obtain ⟨t, e⟩ := a
  subst hkey
  cases e with
  | saveAt f =>
      cases hc
      exact hk.elim
  | saveLatest f =>
      cases hc
      exact hk.elim
  | invalidate symbolKey timeframe =>
      cases hc
      exact hk.elim
  | classify task symbolKey timeframe regime => cases hc
  | saveRegime task symbolKey timeframe regime applied =>
      cases applied with
      | true =>
          cases hc
          exact hk.elim
      | false => cases hc
  | client write =>
      cases hc
      exact ⟨write, rfl, rfl, rfl⟩
  | stopMetrics tenantId tradingMode =>
      cases hc
      exact hk.elim

/-- A reader of such a key sees what the last call with this very key has written. -/
theorem read_clients_iff (hrun : (sharedRedis ω).run (.start ω) run = some s) {k : RedisKey}
    (hk : k.IsClients) {value : RedisValue} {now : ℚ} :
    s.redis.read k.text now = some value ↔ ∃ (t : ℚ) (write : ClientWrite), write.key = k ∧
      write.value = value ∧ (now : WithTop ℚ) < ((t : ℚ) : WithTop ℚ) + write.ttl ∧
        LastWrite k t write run := by
  rw [read_eq_some_iff hrun]
  constructor
  · rintro ⟨expiry, hlive, before, a, after, hsplit, hset, hafter⟩
    obtain ⟨write, ha, hkey, hc⟩ := command_on_clients hk hset rfl
    cases hc
    refine ⟨a.1, write, hkey, rfl, hlive, before, a, after, hsplit, Prod.ext rfl ha, ?_⟩
    intro x hx write' hwrite'
    refine hafter x hx (.set write'.key write'.value ((x.1 : WithTop ℚ) + write'.ttl)) ?_
    rw [hwrite']
    rfl
  · rintro ⟨t, write, rfl, rfl, hlive, before, a, after, hsplit, rfl, hafter⟩
    refine ⟨_, hlive, before, _, after, hsplit, rfl, fun x hx c hc hkey => ?_⟩
    obtain ⟨write', hx', hkey', -⟩ := command_on_clients hk hc hkey
    exact hafter x hx write' hx' hkey'

/-- A reader that decodes what one call only writes at its key sees what this call has written,
if it was the last one at the key and the entry is not gone. -/
theorem readAs_iff (hrun : (sharedRedis ω).run (.start ω) run = some s) (write : ClientWrite)
    (hk : write.key.IsClients) {α : Type} {decode : RedisValue → Option α} {a : α}
    (hdecode : ∀ w : ClientWrite, w.key = write.key → (decode w.value = some a ↔ w = write))
    {now : ℚ} :
    RedisStore.readAs decode s.redis write.key now = some a ↔ ∃ t : ℚ,
      (now : WithTop ℚ) < (t : WithTop ℚ) + write.ttl ∧ LastWrite write.key t write run := by
  rw [RedisStore.readAs, Option.bind_eq_some_iff]
  constructor
  · rintro ⟨value, hread, ha⟩
    obtain ⟨t, w, hkey, rfl, hlive, hlast⟩ := (read_clients_iff hrun hk).1 hread
    obtain rfl := (hdecode w hkey).1 ha
    exact ⟨t, hlive, hlast⟩
  · rintro ⟨t, hlive, hlast⟩
    exact ⟨write.value, (read_clients_iff hrun hk).2 ⟨t, write, rfl, rfl, hlive, hlast⟩,
      (hdecode write rfl).2 rfl⟩

/-- The caches of a tenant and of a symbol: what is read is what was written last for this very
tenant and mode, or for this symbol, and not longer ago than the entry stays; a kill switch is
read for ever. -/
theorem caches_of_run (hrun : (sharedRedis ω).run (.start ω) run = some s) (now : ℚ) :
    (∀ tradingMode tenantId metrics,
      readRiskMetrics s.redis tradingMode tenantId now = some metrics ↔ ∃ t : ℚ, now < t + 120 ∧
        LastWrite (.riskMetrics tenantId tradingMode) t
          (.publishRiskMetrics tradingMode metrics tenantId) run) ∧
    (∀ tradingMode tenantId state,
      readKillSwitchState s.redis tradingMode tenantId now = some state ↔ ∃ t : ℚ,
        LastWrite (.killSwitchState tenantId tradingMode) t
          (.publishKillSwitch tradingMode state tenantId) run) ∧
    (∀ tradingMode tenantId health,
      readWorkerHealth s.redis tradingMode tenantId now = some health ↔ ∃ t : ℚ, now < t + 45 ∧
        LastWrite (.workerHealth tenantId tradingMode) t
          (.publishWorkerHealth tradingMode health tenantId) run) ∧
    ∀ symbol ticker, readTicker s.redis symbol now = some ticker ↔ ticker.symbol = symbol ∧
      ∃ t : ℚ, now < t + 60 ∧ LastWrite (.ticker symbol) t (.publishTicker ticker) run := by
  refine ⟨fun tradingMode tenantId metrics => ?_, fun tradingMode tenantId state => ?_,
    fun tradingMode tenantId health => ?_, fun symbol ticker => ?_⟩
  · refine (readAs_iff hrun (.publishRiskMetrics tradingMode metrics tenantId) trivial
      fun w hkey => ?_).trans (exists_congr fun t => and_congr_left' WithTop.coe_lt_coe)
    cases w <;> cases hkey
    simp [ClientWrite.value, RedisValue.riskMetrics?]
  · refine (readAs_iff hrun (.publishKillSwitch tradingMode state tenantId) trivial
      fun w hkey => ?_).trans (exists_congr fun t => and_iff_right ?_)
    · cases w <;> cases hkey
      simp [ClientWrite.value, RedisValue.killSwitchState?]
    · exact WithTop.coe_lt_top now
  · refine (readAs_iff hrun (.publishWorkerHealth tradingMode health tenantId) trivial
      fun w hkey => ?_).trans (exists_congr fun t => and_congr_left' WithTop.coe_lt_coe)
    cases w <;> cases hkey
    simp [ClientWrite.value, RedisValue.workerHealth?]
  · by_cases hsymbol : ticker.symbol = symbol
    · subst hsymbol
      rw [and_iff_right rfl]
      refine (readAs_iff hrun (.publishTicker ticker) trivial
        fun w hkey => ?_).trans (exists_congr fun t => and_congr_left' WithTop.coe_lt_coe)
      cases w <;> simp_all [ClientWrite.key, ClientWrite.value, RedisValue.ticker?]
    · refine iff_of_false (fun hread => hsymbol ?_) fun h => hsymbol h.1
      obtain ⟨value, hvalue, hticker⟩ := Option.bind_eq_some_iff.1 hread
      obtain ⟨t, w, hkey, rfl, -⟩ := (read_clients_iff hrun (k := .ticker symbol) trivial).1 hvalue
      cases w <;> simp_all [ClientWrite.key, ClientWrite.value, RedisValue.ticker?]

/-- Two tenants write their metrics, and a feed of either meets a ban. -/
def twoTenantWrites : List (ℚ × SharedEvent Unit) :=
  [(0, .client (.publishRiskMetrics .paper { timestamp := 0, portfolioValue := 1000 } (some "t1"))),
    (1, .client (.publishRiskMetrics .paper { timestamp := 1, portfolioValue := 2000 }
      (some "t2"))),
    (2, .client (.recordExchangeBan .binance ⟨302, 1⟩))]

theorem caches_of_run_twoTenantWrites : ∃ s,
    (sharedRedis Unit).run (.start Unit) twoTenantWrites = some s ∧
      readRiskMetrics s.redis .paper (some "t1") 119 =
        some { timestamp := 0, portfolioValue := 1000 } := by
  obtain ⟨s, hs⟩ := Option.isSome_iff_exists.1
    (show ((sharedRedis Unit).run (.start Unit) twoTenantWrites).isSome = true by decide +kernel)
  refine ⟨s, hs, ((caches_of_run hs 119).1 _ _ _).2 ⟨0, by norm_num, [], _, _, rfl, rfl, ?_⟩⟩
  simp [ClientWrite.key]

/-- An event of a run can come in the state that the part before it ends in. -/
theorem enables_of_run {before after : List (ℚ × SharedEvent ω)} {a : ℚ × SharedEvent ω}
    (hrun : (sharedRedis ω).run (.start ω) (before ++ a :: after) = some s) :
    ∃ r, (sharedRedis ω).run (.start ω) before = some r ∧ r.enables a.1 a.2 = true := by
  rw [Machine.run_append, Option.bind_eq_some_iff] at hrun
  obtain ⟨r, hr, hafter⟩ := hrun
  obtain ⟨u, hnext, -⟩ := (Machine.run_cons_eq_some_iff _).1 hafter
  exact ⟨r, hr, (next_eq_some_iff.1 hnext).1⟩

/-- The entry of a ban stays at least until the ban ends, although whole seconds are counted from
the time at which it is recorded. -/
theorem bannedUntil_lt_expiry {error : ExchangeBannedError} {t : ℚ} (h : error.raisedAt ≤ t) :
    error.bannedUntil < t + ((max (⌊error.retryAfterSeconds⌋ + 1) 1 : ℤ) : ℚ) := by
  have hfloor : error.retryAfterSeconds < ⌊error.retryAfterSeconds⌋ + 1 := Int.lt_floor_add_one _
  have hmax : ((⌊error.retryAfterSeconds⌋ + 1 : ℤ) : ℚ) ≤
      ((max (⌊error.retryAfterSeconds⌋ + 1) 1 : ℤ) : ℚ) := Int.cast_le.2 (le_max_left _ _)
  push_cast at hmax
  have hrest : error.bannedUntil - error.raisedAt ≤ error.retryAfterSeconds := le_max_left _ _
  push_cast
  linarith

/-- What is left of a ban is what is left of the ban that was recorded last. -/
theorem exchangeBanRemainingSeconds_iff (hrun : (sharedRedis ω).run (.start ω) run = some s)
    {exchange : ExchangeID} {now remaining : ℚ} :
    exchangeBanRemainingSeconds s.redis exchange now = some remaining ↔
      0 < remaining ∧ ∃ (t : ℚ) (error : ExchangeBannedError),
        LastWrite (.exchangeBan exchange) t (.recordExchangeBan exchange error) run ∧
          error.bannedUntil = now + remaining := by
  rw [exchangeBanRemainingSeconds, Option.bind_eq_some_iff]
  constructor
  · rintro ⟨ts, hread, hleft⟩
    obtain ⟨hpos, hremaining⟩ := Option.ite_none_right_eq_some.1 hleft
    obtain rfl := Option.some.inj hremaining
    obtain ⟨value, hvalue, hts⟩ := Option.bind_eq_some_iff.1 hread
    obtain ⟨t, w, hkey, rfl, -, hlast⟩ :=
      (read_clients_iff hrun (k := .exchangeBan exchange) trivial).1 hvalue
    cases w <;> cases hkey
    cases hts
    exact ⟨hpos, t, _, hlast, by ring⟩
  · rintro ⟨hpos, t, error, hlast, huntil⟩
    have hraised : error.raisedAt ≤ t := by
      obtain ⟨before, a, after, rfl, rfl, -⟩ := hlast
      obtain ⟨r, -, henables⟩ := enables_of_run hrun
      exact of_decide_eq_true henables
    refine ⟨error.bannedUntil, Option.bind_eq_some_iff.2 ⟨.bannedUntil error.bannedUntil,
      (read_clients_iff hrun (k := .exchangeBan exchange) trivial).2
        ⟨t, .recordExchangeBan exchange error, rfl, rfl, ?_, hlast⟩, rfl⟩, ?_⟩
    · refine WithTop.coe_lt_coe.2 ?_
      linarith [bannedUntil_lt_expiry hraised]
    · rw [huntil, add_sub_cancel_left, if_pos hpos]

/-- A worker knows what is left of a ban exactly until the ban that was recorded last ends,
whichever worker has recorded it; until then no call of a feed of the exchange changes the feed,
whatever the exchange would answer. -/
theorem exchangeBan_of_run (hrun : (sharedRedis ω).run (.start ω) run = some s)
    (exchange : ExchangeID) (now : ℚ) :
    (∀ remaining, exchangeBanRemainingSeconds s.redis exchange now = some remaining ↔
      0 < remaining ∧ ∃ (t : ℚ) (error : ExchangeBannedError),
        LastWrite (.exchangeBan exchange) t (.recordExchangeBan exchange error) run ∧
          error.bannedUntil = now + remaining) ∧
    ∀ (t : ℚ) (error : ExchangeBannedError),
      LastWrite (.exchangeBan exchange) t (.recordExchangeBan exchange error) run →
      now < error.bannedUntil → ∀ (cfg : CandleConfig) (f : SymbolFeed) (e : FeedEnv)
        (feed : FeedState), f.exchangeId = exchange →
        e.banned = (exchangeBanRemainingSeconds s.redis exchange now).isSome →
          f.initializeFeed cfg e feed = feed ∧ f.poll cfg e feed = feed := by
  refine ⟨fun remaining => exchangeBanRemainingSeconds_iff hrun, ?_⟩
  intro t error hlast hnow cfg f e feed _ hbanned
  have hleft : exchangeBanRemainingSeconds s.redis exchange now =
      some (error.bannedUntil - now) :=
    (exchangeBanRemainingSeconds_iff hrun).2
      ⟨sub_pos.2 hnow, t, error, hlast, (add_sub_cancel _ _).symm⟩
  have he : e.banned = true := by rw [hbanned, hleft, Option.isSome_some]
  exact ⟨if_pos he, if_pos he⟩

theorem exchangeBan_of_run_twoTenantWrites : ∃ s,
    (sharedRedis Unit).run (.start Unit) twoTenantWrites = some s ∧
      exchangeBanRemainingSeconds s.redis .binance 300 = some 2 := by
  obtain ⟨s, hs⟩ := Option.isSome_iff_exists.1
    (show ((sharedRedis Unit).run (.start Unit) twoTenantWrites).isSome = true by decide +kernel)
  refine ⟨s, hs, ((exchangeBan_of_run hs .binance 300).1 2).2
    ⟨by norm_num, 2, ⟨302, 1⟩, ⟨twoTenantWrites.take 2, _, [], rfl, rfl, by simp⟩, by norm_num⟩⟩

end Machine

end Sgr
