import Sgr.Risk.Closers
import Sgr.Strategy.SharedRedis
import Sgr.Strategy.SignalFlow

/-!
# Where the regime of an exit comes from

The watchdog of `sgr/risk/position_protection.py` closes a position that was opened in a ranging
market when `get_latest_regime` answers another regime. The answer has come a long way: a feed has
saved features, a task of the strategy engine has read them and classified a regime, which it has
saved after that, and other tasks may have been at each of these keys in between.
-/

open Collection Concurrency

namespace Sgr

section Provenance

variable {ω : Type*}

/-- The features that were saved last under a name at a time, and not invalidated since. -/
def FeaturesSaved (symbolKey : String) (timeframe : ColonFree) (t : ℚ) (features : FeatureSet) :
    List (ℚ × SharedEvent ω) → Prop :=
  Since
    (fun _ a => ∃ f : StoredFeatures, a = (t, .saveLatest f) ∧ f.symbolKey = symbolKey ∧
      f.timeframe = timeframe ∧ f.features = features)
    fun a => (∀ f, a.2 = .saveLatest f → f.symbolKey = symbolKey → f.timeframe ≠ timeframe) ∧
      a.2 ≠ .invalidate symbolKey timeframe

/-- The regime that a task has classified last, in a call of `process` that has not saved it yet:
that of the features it has found, or the one that the caller knew. -/
def Classified (task : ω) (symbolKey : String) (timeframe : ColonFree) (regime : MarketRegime) :
    List (ℚ × SharedEvent ω) → Prop :=
  Since
    (fun before a => ∃ (given : MarketRegime) (t : ℚ) (features : FeatureSet),
      a.2 = .classify task symbolKey timeframe given ∧ a.1 < t + timeframe.ttl ∧
        FeaturesSaved symbolKey timeframe t features before ∧ cycleRegime features given = regime)
    fun a => (∀ s tf given, a.2 ≠ .classify task s tf given) ∧
      ∀ s tf r applied, a.2 ≠ .saveRegime task s tf r applied

/-- The regime that was saved last under a name at a time, by a task that had classified it. -/
def RegimeSaved (symbolKey : String) (timeframe : ColonFree) (t : ℚ) (regime : MarketRegime) :
    List (ℚ × SharedEvent ω) → Prop :=
  Since
    (fun before a => ∃ task, a = (t, .saveRegime task symbolKey timeframe regime true) ∧
      Classified task symbolKey timeframe regime before)
    fun a => ∀ task r, a.2 ≠ .saveRegime task symbolKey timeframe r true

end Provenance

section Readers

variable {ω : Type*} {a : ℚ × SharedEvent ω} {symbolKey : String} {timeframe : ColonFree}

/-- What sets the features of a name. -/
theorem command_eq_set_latestFeatures {features : FeatureSet} {expiry : WithTop ℚ} :
    a.2.command a.1 =
        some (.set (.latestFeatures symbolKey timeframe) (.features features) expiry) ↔
      (∃ f : StoredFeatures, a.2 = .saveLatest f ∧ f.symbolKey = symbolKey ∧
        f.timeframe = timeframe ∧ f.features = features) ∧
      expiry = ((a.1 + timeframe.ttl : ℚ) : WithTop ℚ) := by
  obtain ⟨t, e⟩ := a
  cases e with
  | saveAt f => simp [SharedEvent.command, StoredFeatures.cacheKey]
  | saveLatest f =>
      simp only [SharedEvent.command, StoredFeatures.latestKey, Option.some.injEq,
        StoreCommand.set.injEq, RedisKey.latestFeatures.injEq, RedisValue.features.injEq,
        SharedEvent.saveLatest.injEq, exists_eq_left']
      constructor
      · rintro ⟨⟨rfl, rfl⟩, rfl, rfl⟩
        exact ⟨⟨rfl, rfl, rfl⟩, rfl⟩
      · rintro ⟨⟨rfl, rfl, rfl⟩, rfl⟩
        exact ⟨⟨rfl, rfl⟩, rfl, rfl⟩
  | invalidate s tf => simp [SharedEvent.command]
  | classify task s tf given => simp [SharedEvent.command]
  | saveRegime task s tf r applied => cases applied <;> simp [SharedEvent.command]
  | client write => cases write <;> simp [SharedEvent.command, ClientWrite.key]
  | stopMetrics tenantId tradingMode => simp [SharedEvent.command]

/-- What lets the features of a name be. -/
theorem command_ne_latestFeatures :
    (∀ c ∈ a.2.command a.1, c.key ≠ .latestFeatures symbolKey timeframe) ↔
      (∀ f, a.2 = .saveLatest f → f.symbolKey = symbolKey → f.timeframe ≠ timeframe) ∧
        a.2 ≠ .invalidate symbolKey timeframe := by
  obtain ⟨t, e⟩ := a
  cases e with
  | saveAt f => simp [SharedEvent.command, StoredFeatures.cacheKey, StoreCommand.key]
  | saveLatest f => simp [SharedEvent.command, StoredFeatures.latestKey, StoreCommand.key]
  | invalidate s tf => simp [SharedEvent.command, StoreCommand.key]
  | classify task s tf given => simp [SharedEvent.command]
  | saveRegime task s tf r applied => cases applied <;> simp [SharedEvent.command, StoreCommand.key]
  | client write => cases write <;> simp [SharedEvent.command, ClientWrite.key, StoreCommand.key]
  | stopMetrics tenantId tradingMode => simp [SharedEvent.command, StoreCommand.key]

/-- What sets the regime of a name. -/
theorem command_eq_set_latestRegime {regime : MarketRegime} {expiry : WithTop ℚ} :
    a.2.command a.1 = some (.set (.latestRegime symbolKey timeframe) (.regime regime) expiry) ↔
      (∃ task, a.2 = .saveRegime task symbolKey timeframe regime true) ∧
      expiry = ((a.1 + timeframe.ttl : ℚ) : WithTop ℚ) := by
  obtain ⟨t, e⟩ := a
  cases e with
  | saveAt f => simp [SharedEvent.command, StoredFeatures.cacheKey]
  | saveLatest f => simp [SharedEvent.command, StoredFeatures.latestKey]
  | invalidate s tf => simp [SharedEvent.command]
  | classify task s tf given => simp [SharedEvent.command]
  | saveRegime task s tf r applied =>
      cases applied with
      | true =>
          simp only [SharedEvent.command, if_true, Option.some.injEq, StoreCommand.set.injEq,
            RedisKey.latestRegime.injEq, RedisValue.regime.injEq, SharedEvent.saveRegime.injEq,
            and_true, exists_eq_left']
          constructor
          · rintro ⟨⟨rfl, rfl⟩, rfl, rfl⟩
            exact ⟨⟨rfl, rfl, rfl⟩, rfl⟩
          · rintro ⟨⟨rfl, rfl, rfl⟩, rfl⟩
            exact ⟨⟨rfl, rfl⟩, rfl, rfl⟩
      | false => simp [SharedEvent.command]
  | client write => cases write <;> simp [SharedEvent.command, ClientWrite.key]
  | stopMetrics tenantId tradingMode => simp [SharedEvent.command]

/-- What lets the regime of a name be. -/
theorem command_ne_latestRegime :
    (∀ c ∈ a.2.command a.1, c.key ≠ .latestRegime symbolKey timeframe) ↔
      ∀ task r, a.2 ≠ .saveRegime task symbolKey timeframe r true := by
  obtain ⟨t, e⟩ := a
  cases e with
  | saveAt f => simp [SharedEvent.command, StoredFeatures.cacheKey, StoreCommand.key]
  | saveLatest f => simp [SharedEvent.command, StoredFeatures.latestKey, StoreCommand.key]
  | invalidate s tf => simp [SharedEvent.command, StoreCommand.key]
  | classify task s tf given => simp [SharedEvent.command]
  | saveRegime task s tf r applied =>
      cases applied with
      | true =>
          simp only [SharedEvent.command, if_true, Option.mem_some_iff, forall_eq',
            StoreCommand.key, ne_eq, RedisKey.latestRegime.injEq, SharedEvent.saveRegime.injEq,
            and_true, not_and]
          exact ⟨fun h _ _ _ hs htf _ => h hs htf, fun h hs htf => h task r rfl hs htf rfl⟩
      | false => simp [SharedEvent.command]
  | client write => cases write <;> simp [SharedEvent.command, ClientWrite.key, StoreCommand.key]
  | stopMetrics tenantId tradingMode => simp [SharedEvent.command, StoreCommand.key]

end Readers

section Runs

variable {ω : Type*} [DecidableEq ω] {run : List (ℚ × SharedEvent ω)} {s : SharedState ω}
  {symbolKey : String} {timeframe : ColonFree} {now : ℚ}

/-- The features that are found are those that were saved last, if they are not gone. -/
theorem getLatest_iff (hrun : (sharedRedis ω).run (.start ω) run = some s)
    {features : FeatureSet} :
    getLatest s.redis symbolKey timeframe now = some features ↔
      ∃ t : ℚ, now < t + timeframe.ttl ∧ FeaturesSaved symbolKey timeframe t features run := by
  have hread : getLatest s.redis symbolKey timeframe now = some features ↔
      s.redis.read (RedisKey.latestFeatures symbolKey timeframe).text now =
        some (.features features) := by
    rw [getLatest, RedisStore.readAs, Option.bind_eq_some_iff]
    constructor
    · rintro ⟨value, hvalue, hfeatures⟩
      cases value <;> cases hfeatures
      exact hvalue
    · exact fun h => ⟨_, h, rfl⟩
  rw [hread, read_eq_some_iff hrun]
  constructor
  · rintro ⟨expiry, hlive, before, a, after, rfl, hset, hafter⟩
    obtain ⟨⟨f, ha, hf⟩, rfl⟩ := command_eq_set_latestFeatures.1 hset
    exact ⟨a.1, WithTop.coe_lt_coe.1 hlive, before, a, after, rfl, ⟨f, Prod.ext rfl ha, hf⟩,
      fun x hx => command_ne_latestFeatures.1 (hafter x hx)⟩
  · rintro ⟨t, hlive, before, a, after, rfl, ⟨f, rfl, hf⟩, hafter⟩
    exact ⟨_, WithTop.coe_lt_coe.2 hlive, before, _, after, rfl,
      command_eq_set_latestFeatures.2 ⟨⟨f, rfl, hf⟩, rfl⟩,
      fun x hx => command_ne_latestFeatures.2 (hafter x hx)⟩

/-- A task is left with a regime by the call in which it has classified it. -/
theorem classified_iff (hrun : (sharedRedis ω).run (.start ω) run = some s) {task : ω}
    {regime : MarketRegime} :
    s.classified task = some (symbolKey, timeframe, regime) ↔
      Classified task symbolKey timeframe regime run := by
  refine Since.iff_of_run
    (fun t : SharedState ω => t.classified task = some (symbolKey, timeframe, regime))
    (by simp [SharedState.start]) (fun as r a t hr hnext => ?_) hrun
  obtain ⟨-, rfl⟩ := next_eq_some_iff.1 hnext
  obtain ⟨u, e⟩ := a
  cases e with
  | classify other sk tf given =>
      by_cases htask : task = other
      · subst htask
        simp only [SharedState.apply, SharedState.classifiedAfter, Function.update_self,
          Option.map_eq_some_iff]
        constructor
        · rintro ⟨features, hfeatures, hclassified⟩
          cases hclassified
          obtain ⟨t, hlive, hsaved⟩ := (getLatest_iff hr).1 hfeatures
          exact .inl ⟨given, t, features, rfl, hlive, hsaved, rfl⟩
        · rintro (⟨_, t, features, hevent, hlive, hsaved, rfl⟩ | ⟨-, hother, -⟩)
          · cases hevent
            exact ⟨features, (getLatest_iff hr).2 ⟨t, hlive, hsaved⟩, rfl⟩
          · exact absurd rfl (hother sk tf given)
      · simp [SharedState.apply, SharedState.classifiedAfter, Function.update_of_ne htask,
          Ne.symm htask]
  | saveRegime other sk tf saved applied =>
      by_cases htask : task = other
      · subst htask
        simp only [SharedState.apply, SharedState.classifiedAfter, Function.update_self]
        refine iff_of_false (by simp) ?_
        rintro (⟨_, t, features, hevent, -⟩ | ⟨-, -, hother⟩)
        · cases hevent
        · exact hother sk tf saved applied rfl
      · simp [SharedState.apply, SharedState.classifiedAfter, Function.update_of_ne htask,
          Ne.symm htask]
  | saveAt f => simp [SharedState.apply, SharedState.classifiedAfter]
  | saveLatest f => simp [SharedState.apply, SharedState.classifiedAfter]
  | invalidate sk tf => simp [SharedState.apply, SharedState.classifiedAfter]
  | client write => simp [SharedState.apply, SharedState.classifiedAfter]
  | stopMetrics tenantId tradingMode => simp [SharedState.apply, SharedState.classifiedAfter]

/-- The regime that is answered is the one that was saved last, if it is not gone, and the task
that has saved it had classified it. -/
theorem getLatestRegime_iff (hrun : (sharedRedis ω).run (.start ω) run = some s)
    {regime : MarketRegime} :
    getLatestRegime s.redis symbolKey timeframe now = some regime ↔
      ∃ t : ℚ, now < t + timeframe.ttl ∧ RegimeSaved symbolKey timeframe t regime run := by
  have hread : getLatestRegime s.redis symbolKey timeframe now = some regime ↔
      s.redis.read (RedisKey.latestRegime symbolKey timeframe).text now =
        some (.regime regime) := by
    rw [getLatestRegime, RedisStore.readAs, Option.bind_eq_some_iff]
    constructor
    · rintro ⟨value, hvalue, hregime⟩
      cases value <;> cases hregime
      exact hvalue
    · exact fun h => ⟨_, h, rfl⟩
  rw [hread, read_eq_some_iff hrun]
  constructor
  · rintro ⟨expiry, hlive, before, a, after, rfl, hset, hafter⟩
    obtain ⟨⟨task, ha⟩, rfl⟩ := command_eq_set_latestRegime.1 hset
    obtain ⟨r, hr, henables⟩ := enables_of_run hrun
    rw [ha] at henables
    exact ⟨a.1, WithTop.coe_lt_coe.1 hlive, before, a, after, rfl, ⟨task, Prod.ext rfl ha,
      (classified_iff hr).1 (of_decide_eq_true henables)⟩,
      fun x hx => command_ne_latestRegime.1 (hafter x hx)⟩
  · rintro ⟨t, hlive, before, a, after, rfl, ⟨task, rfl, -⟩, hafter⟩
    exact ⟨_, WithTop.coe_lt_coe.2 hlive, before, _, after, rfl,
      command_eq_set_latestRegime.2 ⟨⟨task, rfl⟩, rfl⟩,
      fun x hx => command_ne_latestRegime.2 (hafter x hx)⟩

/-- The watchdog leaves a position for its regime exactly if it was opened in a ranging market and
the regime that was saved last for its symbol, and that is not gone, is known and another one. -/
theorem regimeExit_of_run (hrun : (sharedRedis ω).run (.start ω) run = some s) (p : Position)
    (timeframe : ColonFree) (now : ℚ) :
    (if asksRegime true p then
        checkRegimeExit (getLatestRegime s.redis p.symbol.symbolKey timeframe now)
      else none) = some .regimeChange ↔
      p.entryRegime = some .ranging ∧ ∃ (t : ℚ) (regime : MarketRegime),
        regime ≠ .ranging ∧ regime ≠ .unknown ∧ now < t + timeframe.ttl ∧
          RegimeSaved p.symbol.symbolKey timeframe t regime run := by
  have hexit (answer : Option MarketRegime) : checkRegimeExit answer = some .regimeChange ↔
      ∃ regime, answer = some regime ∧ regime ≠ .ranging ∧ regime ≠ .unknown := by
    unfold checkRegimeExit
    split <;> simp_all
  rw [Option.ite_none_right_eq_some, hexit]
  refine and_congr (by simp [asksRegime]) ?_
  simp only [getLatestRegime_iff hrun]
  constructor
  · rintro ⟨regime, ⟨t, hlive, hsaved⟩, hranging, hunknown⟩
    exact ⟨t, regime, hranging, hunknown, hlive, hsaved⟩
  · rintro ⟨t, regime, hranging, hunknown, hlive, hsaved⟩
    exact ⟨regime, ⟨t, hlive, hsaved⟩, hranging, hunknown⟩

/-- Features of a rising market are saved, classified and then saved as a regime. -/
def risingRun : List (ℚ × SharedEvent Unit) :=
  [(0, .saveLatest ⟨risingFeatures, by decide⟩),
    (1, .classify () btcUsdt.symbolKey ⟨"1h", by decide⟩ .unknown),
    (2, .saveRegime () btcUsdt.symbolKey ⟨"1h", by decide⟩ .trendingUp true)]

/-- A position that was opened in a ranging market. -/
def rangingPosition : Position where
  id := 0
  symbol := btcUsdt
  side := .long
  quantity := 1
  entryPrice := 100
  currentPrice := 100
  openedAt := 0
  strategyName := "mean_reversion_v1"
  tradingMode := .paper
  entryRegime := some .ranging

theorem regimeExit_of_run_rising : ∃ s,
    (sharedRedis Unit).run (.start Unit) risingRun = some s ∧
      (if asksRegime true rangingPosition then
        checkRegimeExit (getLatestRegime s.redis rangingPosition.symbol.symbolKey
          ⟨"1h", by decide⟩ 100)
      else none) = some .regimeChange := by
  obtain ⟨s, hs⟩ := Option.isSome_iff_exists.1
    (show ((sharedRedis Unit).run (.start Unit) risingRun).isSome = true by decide +kernel)
  refine ⟨s, hs, (regimeExit_of_run hs rangingPosition _ 100).2
    ⟨rfl, 2, .trendingUp, by decide, by decide, by norm_num [ColonFree.ttl, ttlByTimeframe],
      risingRun.take 2, _, [], rfl, ⟨(), rfl, risingRun.take 1, _, [], rfl,
        ⟨.unknown, 0, risingFeatures, rfl, by norm_num [ColonFree.ttl, ttlByTimeframe],
          ⟨[], _, [], rfl, ⟨⟨risingFeatures, by decide⟩, rfl, rfl, rfl, rfl⟩, by simp⟩, ?_⟩,
        by simp⟩, by simp⟩⟩
  decide +kernel

end Runs

end Sgr
