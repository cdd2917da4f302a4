import Sgr.Core.SymbolText
import Sgr.Execution.Engine.OpeningLimits

/-!
# The leverage of the account

`_ensure_leverage` sets the leverage of the account before an opening order, unless its cache
says that it is set already. What it sets is the central `default_leverage`; the leverage in
the metadata of the order is what the verification gate and the grid risk evaluate. The cache is
keyed by `str(symbol)`, the account by the exchange and the ccxt symbol.

The calls of `set_leverage` are recorded next to the engine. A call that fails may have been
carried out.
-/

open Collection Concurrency

namespace Sgr

/-- The leverage that the verification gate evaluates. -/
def OrderRequest.targetLeverage (o : OrderRequest) : ℚ := o.metadata.targetLeverage.getD 1

/-- An answered call of `set_leverage`. -/
structure LeverageCall where
  account : ExchangeID × String
  leverage : ℚ
  answer : Except ExchangeError Unit
  /-- The exchange has set the leverage. -/
  isSet : Bool

/-- The adapter has no leverage to set. -/
def LeverageCall.unsupported (c : LeverageCall) : Bool :=
  match c.answer with
  | .ok () => false
  | .error e => e.isNotSupported

/-- The leverage that was last set, read off the calls, newest first. -/
def lastLeverage (calls : List LeverageCall) (account : ExchangeID × String) : Option ℚ :=
  (calls.find? fun c => c.isSet && decide (c.account = account)).map LeverageCall.leverage

/-- An engine with its answered calls of `set_leverage`, newest first. -/
structure LeveragePool (ι : Type*) where
  pool : Pool ι EngineState TaskPc
  calls : List LeverageCall

section Machine

variable {ι : Type*} [DecidableEq ι]

/-- The call of `set_leverage` that an event answers; `carriedOut` says whether a call that
fails has set the leverage all the same. -/
def leverageCall (cfg : EngineConfig) (carriedOut : Bool) :
    Job → TaskPc → TaskEvent → Option LeverageCall
  | .execute o _, .call .leverage, .call (.leverageAnswer answer) =>
      some
        { account := o.symbol.account
          leverage := cfg.limits.defaultLeverage
          answer := answer
          isSet :=
            match answer with
            | .ok () => true
            | .error e => !e.isNotSupported && carriedOut }
  | _, _, _ => none

/-- The engine with its calls of `set_leverage`. -/
def leverageMachine (cfg : EngineConfig) (job : ι → Job) :
    Machine (LeveragePool ι) ((ι × TaskEvent) × Bool) where
  next P a := ((engineMachine cfg job).next P.pool a.1).map fun Q =>
    ⟨Q, (leverageCall cfg a.2 (job a.1.1) (P.pool.task a.1.1) a.1.2).toList ++ P.calls⟩

/-- A fresh engine. -/
def leverageStart (verification : Option LiveVerificationState) (job : ι → Job) :
    LeveragePool ι := ⟨engineStart (.init verification) job, []⟩

end Machine

/-! ### What a segment does to the cache -/

/-- An answer after which the order goes on. -/
def letsPass : Except ExchangeError Unit → Bool
  | .ok () => true
  | .error e => e.isNotSupported

/-- The call is past `_ensure_leverage` and has not returned. -/
def CallPc.levered : CallPc → Bool
  | .quantize | .verification _ | .safe _ _ => true
  | p => p.late.isSome

section Segments

variable (cfg : EngineConfig) (o : OrderRequest) (s : EngineState)

theorem Continues.leverageCache_eq {o : OrderRequest} {s t : EngineState} {r : OrderResult}
    {q : CallPc} (h : Continues o s r t q) : t.leverageCache = s.leverageCache := by
  cases h <;> rfl

@[simp] theorem leverageCache_afterSafe (a : Amount) (p : SafePc) :
    (afterSafe o s a p).1.leverageCache = s.leverageCache := by
  refine afterSafe_cases o s (φ := fun c => c.1.leverageCache = s.leverageCache) ?_ ?_
  · intro r t q h
    exact h.leverageCache_eq
  · exact fun _ => rfl

@[simp] theorem leverageCache_executeInternal (a : Amount) :
    (executeInternal cfg o s a).1.leverageCache = s.leverageCache := by
  unfold executeInternal
  split
  · exact leverageCache_afterSafe o _ a _
  · rfl

@[simp] theorem leverageCache_verified (a : Amount) (ticker : Except String Ticker)
    (now : Timestamp) : (verified cfg o s a ticker now).1.leverageCache = s.leverageCache := by
  unfold verified
  dsimp only
  split
  · rfl
  · rw [leverageCache_executeInternal]

@[simp] theorem leverageCache_verify (a : Amount) (now : Timestamp) :
    (verify cfg o s a now).1.leverageCache = s.leverageCache := by
  unfold verify
  split
  · exact leverageCache_executeInternal cfg o s a
  · split
    · exact leverageCache_verified cfg o s a _ now
    · rfl

@[simp] theorem leverageCache_startQuantize :
    (startQuantize cfg o s).1.leverageCache = s.leverageCache := by
  unfold startQuantize
  split <;> rfl

@[simp] theorem leverageCache_afterPreflight (checks : List PreflightCheckResult)
    (now : Timestamp) : (afterPreflight cfg o s checks now).1.leverageCache = s.leverageCache := by
  unfold afterPreflight ensureLeverage
  split
  · rfl
  · split
    · exact leverageCache_verify cfg o s o.amount now
    · split
      · exact leverageCache_startQuantize cfg o s
      · split <;> rfl

@[simp] theorem leverageCache_start (bypass : Bool) (registry : String → Option StrategyEntry)
    (connected : ExchangeID → Option Bool) :
    (start cfg o bypass s registry connected).1.leverageCache = s.leverageCache := by
  unfold start
  dsimp only
  split_ifs <;> simp

@[simp] theorem leverageCache_afterLimits (info : Except ExchangeError ExchangeInfo) :
    (afterLimits cfg o s info).1.leverageCache = s.leverageCache := by
  unfold afterLimits
  dsimp only
  split_ifs <;> simp

@[simp] theorem leverageCache_quantized (now : Timestamp) (r : Amount × Option String) :
    (quantized cfg o s now r).1.leverageCache = s.leverageCache := by
  obtain ⟨a, reason⟩ := r
  cases reason with
  | some reason => rfl
  | none => exact leverageCache_verify cfg o s a now

@[simp] theorem leverageCache_quantizeAnswered (info : Except String ExchangeInfo)
    (ticker : Except String Ticker) (now : Timestamp) :
    (quantizeAnswered cfg o s info ticker now).1.leverageCache = s.leverageCache := by
  unfold quantizeAnswered
  split_ifs <;> simp

theorem leverageCache_leverageAnswered (answer : Except ExchangeError Unit) :
    (leverageAnswered cfg o s answer).1.leverageCache =
      if letsPass answer then s.leverageCache.set o.symbol.str cfg.limits.defaultLeverage
      else s.leverageCache := by
  cases answer with
  | ok _ => exact leverageCache_startQuantize cfg o _
  | error e =>
      unfold leverageAnswered letsPass
      dsimp only
      split
      · exact leverageCache_startQuantize cfg o _
      · rfl

/-! ### What lets an opening order pass -/

/-- After the preflight an opening order is past `_ensure_leverage` when its leverage is
cached. -/
theorem cached_of_levered_afterPreflight (hopen : o.reduceOnly = false)
    (checks : List PreflightCheckResult) (now : Timestamp)
    (hlevered : (afterPreflight cfg o s checks now).2.levered = true) :
    s.leverageCache.get? o.symbol.str = some cfg.limits.defaultLeverage := by
  unfold afterPreflight ensureLeverage at hlevered
  split_ifs at hlevered with _ hreduce hcached
  · cases hlevered
  · simp [hopen] at hreduce
  · exact hcached
  · cases hlevered
  · cases hlevered

theorem cached_of_levered_start (hopen : o.reduceOnly = false) (bypass : Bool)
    (registry : String → Option StrategyEntry) (connected : ExchangeID → Option Bool)
    (hlevered : (start cfg o bypass s registry connected).2.levered = true) :
    s.leverageCache.get? o.symbol.str = some cfg.limits.defaultLeverage := by
  unfold start at hlevered
  dsimp only at hlevered
  split_ifs at hlevered
  · cases hlevered
  · cases hlevered
  · cases hlevered
  · cases hlevered
  · exact cached_of_levered_afterPreflight cfg o s hopen _ _ hlevered
  · exact cached_of_levered_afterPreflight cfg o s hopen _ _ hlevered

theorem cached_of_levered_afterLimits (hopen : o.reduceOnly = false)
    (info : Except ExchangeError ExchangeInfo)
    (hlevered : (afterLimits cfg o s info).2.levered = true) :
    s.leverageCache.get? o.symbol.str = some cfg.limits.defaultLeverage := by
  unfold afterLimits at hlevered
  dsimp only at hlevered
  split_ifs at hlevered
  · cases hlevered
  · exact cached_of_levered_afterPreflight cfg o s hopen _ _ hlevered

theorem letsPass_of_levered (answer : Except ExchangeError Unit)
    (hlevered : (leverageAnswered cfg o s answer).2.levered = true) : letsPass answer = true := by
  cases answer with
  | ok _ => rfl
  | error e =>
      unfold leverageAnswered at hlevered
      dsimp only at hlevered
      split at hlevered
      next hsupported => exact hsupported
      next => cases hlevered

end Segments

/-- A segment of `execute` leaves the cache as it is, or the answer of `set_leverage` lets the
order pass. -/
theorem leverageCache_of_callSegment {cfg : EngineConfig} {o : OrderRequest} {bypass : Bool}
    {s t : EngineState} {p q : CallPc} {e : CallEvent}
    (h : callSegment cfg o bypass s p e = some (t, q)) :
    t.leverageCache = s.leverageCache ∨
      ∃ answer, p = .leverage ∧ e = .leverageAnswer answer ∧ letsPass answer = true ∧
        t.leverageCache = s.leverageCache.set o.symbol.str cfg.limits.defaultLeverage := by
  have hkeeps {c : EngineState × CallPc} (hc : c.1.leverageCache = s.leverageCache)
      (h : some c = some (t, q)) : t.leverageCache = s.leverageCache := by
    cases h
    exact hc
  unfold callSegment at h
  split at h
  · exact .inl (hkeeps (leverageCache_start cfg o s _ _ _) h)
  · exact .inl (hkeeps (leverageCache_afterLimits cfg o s _) h)
  · exact .inl (hkeeps (leverageCache_afterPreflight cfg o s _ _) h)
  · next answer =>
      have hcache := leverageCache_leverageAnswered cfg o s answer
      rw [Option.some.inj h] at hcache
      cases hpass : letsPass answer with
      | true => exact .inr ⟨answer, rfl, rfl, hpass, hcache.trans (if_pos hpass)⟩
      | false => exact .inl (hcache.trans (if_neg (by simp [hpass])))
  · exact .inl (hkeeps (leverageCache_quantizeAnswered cfg o s _ _ _) h)
  · exact .inl (hkeeps (leverageCache_verified cfg o s _ _ _) h)
  · exact .inl (hkeeps rfl h)
  · exact .inl (hkeeps rfl h)
  · obtain ⟨⟨u, q'⟩, -, hq⟩ := Option.map_eq_some_iff.1 h
    exact .inl (hkeeps (leverageCache_afterSafe o (s.withSafety u) _ _) (congrArg some hq))
  · exact .inl (hkeeps (continues_persistStatus cfg o s _ _).leverageCache_eq h)
  · exact .inl (hkeeps rfl h)
  · exact .inl (hkeeps (continues_pollAnswered cfg o s _ _).leverageCache_eq h)
  · refine .inl (hkeeps ?_ h)
    exact (continues_monitorLoop o (s.withSafety _) _ _).leverageCache_eq
  · exact .inl (hkeeps rfl h)
  · exact .inl (hkeeps (continues_persistStatus cfg o s _ _).leverageCache_eq h)
  · exact .inl (hkeeps rfl h)
  · exact .inl (hkeeps rfl h)
  · exact .inl (hkeeps rfl h)
  · cases h

/-- An opening order comes past `_ensure_leverage` when its leverage is cached or the answer of
`set_leverage` lets it pass. -/
theorem levered_of_callSegment {cfg : EngineConfig} {o : OrderRequest} {bypass : Bool}
    {s t : EngineState} {p q : CallPc} {e : CallEvent} (hopen : o.reduceOnly = false)
    (h : callSegment cfg o bypass s p e = some (t, q)) (hq : q.levered = true) :
    p.levered = true ∨ s.leverageCache.get? o.symbol.str = some cfg.limits.defaultLeverage ∨
      ∃ answer, p = .leverage ∧ e = .leverageAnswer answer ∧ letsPass answer = true := by
  unfold callSegment at h
  split at h
  · obtain ⟨-, rfl⟩ := Prod.mk.inj (Option.some.inj h)
    exact .inr (.inl (cached_of_levered_start cfg o s hopen _ _ _ hq))
  · obtain ⟨-, rfl⟩ := Prod.mk.inj (Option.some.inj h)
    exact .inr (.inl (cached_of_levered_afterLimits cfg o s hopen _ hq))
  · obtain ⟨-, rfl⟩ := Prod.mk.inj (Option.some.inj h)
    exact .inr (.inl (cached_of_levered_afterPreflight cfg o s hopen _ _ hq))
  · obtain ⟨-, rfl⟩ := Prod.mk.inj (Option.some.inj h)
    exact .inr (.inr ⟨_, rfl, rfl, letsPass_of_levered cfg o s _ hq⟩)
  · exact .inl rfl
  · exact .inl rfl
  · cases h
    cases hq
  · cases h
    cases hq
  all_goals first | exact .inl rfl | cases h

/-! ### Runs -/

/-- A call of `set_leverage` for an account has let orders pass. -/
def Settled (calls : List LeverageCall) (account : ExchangeID × String) : Prop :=
  ∃ c ∈ calls, c.account = account ∧ letsPass c.answer = true

section Runs

variable {ι : Type*} {cfg : EngineConfig} {job : ι → Job}

/-- Every call sets the central leverage, and an account whose leverage is cached or that has an
opening order past `_ensure_leverage` is settled. -/
structure LeverageSettled (cfg : EngineConfig) (job : ι → Job) (P : LeveragePool ι) : Prop where
  central : ∀ c ∈ P.calls, c.leverage = cfg.limits.defaultLeverage
  answered : ∀ c ∈ P.calls, letsPass c.answer = true → c.isSet = true ∨ c.unsupported = true
  cached : ∀ s : Symbol,
    P.pool.shared.leverageCache.get? s.str = some cfg.limits.defaultLeverage →
      Settled P.calls s.account
  levered : ∀ i o bypass p, job i = .execute o bypass → o.reduceOnly = false →
    P.pool.task i = .call p → p.levered = true → Settled P.calls o.symbol.account

theorem Settled.append {calls : List LeverageCall} {account : ExchangeID × String}
    (h : Settled calls account) (new : List LeverageCall) : Settled (new ++ calls) account := by
  obtain ⟨c, hc, hpasses⟩ := h
  exact ⟨c, List.mem_append_right new hc, hpasses⟩

theorem leverageSettled_start (cfg : EngineConfig) (verification : Option LiveVerificationState)
    (job : ι → Job) : LeverageSettled cfg job (leverageStart verification job) where
  central c hc := by cases hc
  answered c hc := by cases hc
  cached s hs := by
    rw [leverageStart, engineStart, EngineState.init, Dict.get?_empty] at hs
    cases hs
  levered i o bypass p hjob _ hp hlevered := by
    have hstart : (job i).start = .call p := hp
    rw [hjob] at hstart
    cases hstart
    cases hlevered

/-- The last leverage of a settled account is the central one, or its adapter has none to
set. -/
theorem LeverageSettled.lastLeverage {P : LeveragePool ι} (h : LeverageSettled cfg job P)
    {account : ExchangeID × String} (hsettled : Settled P.calls account) :
    lastLeverage P.calls account = some cfg.limits.defaultLeverage ∨
      lastLeverage P.calls account = none ∧
        ∃ c ∈ P.calls, c.account = account ∧ c.unsupported = true := by
  unfold Sgr.lastLeverage
  cases hlast : P.calls.find? fun c => c.isSet && decide (c.account = account) with
  | some c => exact .inl (congrArg some (h.central c (List.mem_of_find?_eq_some hlast)))
  | none =>
      obtain ⟨c, hc, haccount, hpasses⟩ := hsettled
      refine .inr ⟨rfl, c, hc, haccount, (h.answered c hc hpasses).resolve_left fun hset => ?_⟩
      simpa [hset, haccount] using List.find?_eq_none.1 hlast c hc

variable [DecidableEq ι]

theorem leverage_of_leverageCall {carriedOut : Bool} {j : Job} {p : TaskPc} {e : TaskEvent}
    {c : LeverageCall} (h : leverageCall cfg carriedOut j p e = some c) :
    c.leverage = cfg.limits.defaultLeverage ∧
      (letsPass c.answer = true → c.isSet = true ∨ c.unsupported = true) := by
  unfold leverageCall at h
  split at h
  next o bypass answer =>
    cases h
    refine ⟨rfl, fun hpasses => ?_⟩
    cases answer with
    | ok _ => exact .inl rfl
    | error e => exact .inr hpasses
  next => cases h

/-- A segment of `execute` with the calls of `set_leverage` before and after it. -/
theorem LeverageSettled.execute {P : LeveragePool ι} (h : LeverageSettled cfg job P) {i : ι}
    {o : OrderRequest} {bypass : Bool} {p q : CallPc} {e : CallEvent} {t : EngineState}
    (hjob : job i = .execute o bypass) (hp : P.pool.task i = .call p)
    (hcall : callSegment cfg o bypass P.pool.shared p e = some (t, q)) (carriedOut : Bool) :
    LeverageSettled cfg job ⟨P.pool.resume i t (.call q),
      (leverageCall cfg carriedOut (.execute o bypass) (.call p) (.call e)).toList ++ P.calls⟩ := by
  have hnew {answer : Except ExchangeError Unit} (hp : p = .leverage)
      (he : e = .leverageAnswer answer) (hpasses : letsPass answer = true) :
      Settled ((leverageCall cfg carriedOut (.execute o bypass) (.call p) (.call e)).toList ++
        P.calls) o.symbol.account := by
    subst hp he
    exact ⟨_, List.mem_append_left _ (List.mem_singleton_self _), rfl, hpasses⟩
  refine ⟨fun c hc => ?_, fun c hc hpasses => ?_, fun s hs => ?_, fun j o' bypass' p' hj hopen
    hp' hlevered => ?_⟩
  · rcases List.mem_append.1 hc with hc | hc
    · exact (leverage_of_leverageCall (Option.mem_toList.1 hc)).1
    · exact h.central c hc
  · rcases List.mem_append.1 hc with hc | hc
    · exact (leverage_of_leverageCall (Option.mem_toList.1 hc)).2 hpasses
    · exact h.answered c hc hpasses
  · obtain hcache | ⟨answer, rfl, rfl, hpasses, hcache⟩ := leverageCache_of_callSegment hcall
    · rw [Pool.resume_shared, hcache] at hs
      exact (h.cached s hs).append _
    · by_cases hstr : s.str = o.symbol.str
      · rw [(Symbol.str_eq_iff s o.symbol).1 hstr]
        exact hnew rfl rfl hpasses
      · rw [Pool.resume_shared, hcache, Dict.get?_set_of_ne _ hstr] at hs
        exact (h.cached s hs).append _
  · by_cases hji : j = i
    · subst hji
      rw [hjob] at hj
      cases hj
      rw [Pool.resume_task_self] at hp'
      cases hp'
      obtain hbefore | hcached | ⟨answer, hpc, he, hpasses⟩ :=
        levered_of_callSegment hopen hcall hlevered
      · exact (h.levered j o bypass p hjob hopen hp hbefore).append _
      · exact (h.cached o.symbol hcached).append _
      · exact hnew hpc he hpasses
    · rw [Pool.resume_task_of_ne _ hji] at hp'
      exact (h.levered j o' bypass' p' hj hopen hp' hlevered).append _

theorem LeverageSettled.next {P Q : LeveragePool ι} (h : LeverageSettled cfg job P)
    {a : (ι × TaskEvent) × Bool} (hnext : (leverageMachine cfg job).next P a = some Q) :
    LeverageSettled cfg job Q := by
  obtain ⟨⟨i, e⟩, carriedOut⟩ := a
  obtain ⟨R, hR, rfl⟩ := Option.map_eq_some_iff.1 hnext
  obtain ⟨t, q, hseg, rfl⟩ := Pool.machine_next_eq_some_iff.1 hR
  cases hjob : job i with
  | execute o bypass =>
      rw [hjob] at hseg
      obtain ⟨p, e', q', hp, rfl, rfl, hcall⟩ := segment_execute_eq_some hseg
      simpa only [hjob, hp] using h.execute hjob hp hcall carriedOut
  | trigger =>
      rw [hjob] at hseg
      obtain ⟨p, e', q', hp, rfl, rfl, htrigger⟩ := segment_trigger_eq_some hseg
      have hcache : t.leverageCache = P.pool.shared.leverageCache := by
        obtain ⟨-, -, rfl⟩ | rfl := triggerSegment_cases htrigger
        · rfl
        · rfl
      refine ⟨h.central, h.answered, fun s hs => h.cached s (hcache ▸ hs),
        fun j o bypass p' hj hopen hp' hlevered => ?_⟩
      have hji : j ≠ i := by
        rintro rfl
        rw [hjob] at hj
        cases hj
      exact h.levered j o bypass p' hj hopen (by rwa [Pool.resume_task_of_ne _ hji] at hp')
        hlevered

end Runs

/-- The same gate with another limit of the leverage. -/
def LiveVerificationState.withMaxLeverage (g : LiveVerificationState) (leverage : ℚ)
    (h : 1 ≤ leverage) : LiveVerificationState :=
  { g with profile := { g.profile with maxLeverage := leverage, one_le_maxLeverage := h } }

/-- The opening order of a grid with a leverage. -/
def gridOpening (leverage : ℚ) : OrderRequest :=
  { OrderRequest.market 7 .buy 1 .live with
    metadata := { strategy := some "grid", gridId := some 1, targetLeverage := some leverage } }

/-- The events of an order on an exchange that answers everything, up to `place_order`. -/
def openingEvents : List ((Unit × TaskEvent) × Bool) :=
  [.call (fun _ => some ⟨false, true, true, true⟩) fun _ => some true,
    .limitsAnswer (.ok (.unlimited .binance ["BTC/USDT"])),
    .liveAnswer ⟨.ok 0, .ok ⟨true, "open"⟩, .ok (.unlimited .binance ["BTC/USDT"]), .ok 1,
      .ok [], .ok false, .ok []⟩ 0,
    .leverageAnswer (.ok ()), .quantizeAnswer (.error "") (.error "") 0,
    .tickerAnswer (.ok ⟨10, 11⟩) 0].map fun e => (((), .call e), false)

/-- A task is in `place_order`. -/
def TaskPc.submits : TaskPc → Bool
  | .call (.safe _ .submitting) => true
  | _ => false

theorem exists_eq_of_submits {p : TaskPc} (h : p.submits = true) :
    ∃ a, p = .call (.safe a .submitting) := by
  unfold TaskPc.submits at h
  split at h
  next a => exact ⟨a, rfl⟩
  next => cases h

end Sgr
