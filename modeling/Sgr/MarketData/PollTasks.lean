import Mathlib.Data.List.Dedup
import Mathlib.Data.List.Perm.Basic
import Sgr.MarketData.Subscriptions

/-!
# Poll tasks

A call of the engine creates its tasks after it has waited, without looking at what other calls
have done in the meantime. So the poll tasks of a key, and those that calls are going to create,
are at most as many as its subscription allows as long as no call removes a feed that is being
added and no `start` comes to feeds that others have added.
-/

open Collection Concurrency

namespace Sgr

/-- The number of poll tasks of a key. -/
def MarketDataEngine.polls (e : MarketDataEngine) (k : String) : ℕ :=
  e.live.countP fun t => t.key = k

/-- The engine has a feed for the key. -/
def MarketDataEngine.Subscribed (e : MarketDataEngine) (k : String) : Prop :=
  (e.feeds.get? k).isSome = true

instance (e : MarketDataEngine) (k : String) : Decidable (e.Subscribed k) :=
  inferInstanceAs (Decidable (_ = true))

/-- The keys that a call of `reconcile_subscriptions` has still to create tasks for. -/
def SuspendedCall.keys : SuspendedCall → List String
  | .adding newFeeds => newFeeds.map SymbolFeed.key
  | _ => []

namespace EngineCalls

/-- How many tasks of a key the calls of `reconcile_subscriptions` have still to create. -/
def additions (s : EngineCalls) (k : String) : ℕ :=
  (s.suspended.flatMap SuspendedCall.keys).count k

/-- A running engine has one poll task for each subscribed key, and there are no others. -/
def PollsSubscribed (s : EngineCalls) : Prop :=
  ∀ k, s.engine.polls k = if s.engine.running = true ∧ s.engine.Subscribed k then 1 else 0

/-- A key has no poll task and is not going to get one from `reconcile_subscriptions`. -/
def Unpolled (s : EngineCalls) (k : String) : Prop :=
  s.engine.polls k = 0 ∧ s.additions k = 0

instance (s : EngineCalls) (k : String) : Decidable (s.Unpolled k) :=
  inferInstanceAs (Decidable (_ ∧ _))

/-- `reconcile_subscriptions` removes feeds that have their task or that still wait for `start`,
and `start` creates the tasks of feeds that all still wait for it. -/
def NoOverlap (s : EngineCalls) : EngineEvent → Prop
  | .start => True
  | .reconcile target _ =>
      ∀ k ∈ s.engine.toRemove target, (s.engine.tasks.get? k).isSome = true ∨ s.Unpolled k
  | .resumed i _ =>
      s.suspended[i]? = some .starting → ∀ k, s.engine.Subscribed k → s.Unpolled k

/-- The poll tasks of a key, and those that calls have still to create, are at most as many as its
subscription allows. -/
def AtMostOnce (s : EngineCalls) : Prop :=
  ∀ k, s.engine.polls k + s.additions k ≤ if s.engine.Subscribed k then 1 else 0

end EngineCalls

/-! ### Tasks -/

namespace MarketDataEngine

/-- The tasks that the engine knows are live and are those of their keys. -/
structure Tracked (e : MarketDataEngine) : Prop where
  nodup : (e.live.map PollTask.id).Nodup
  fresh : ∀ t ∈ e.live, t.id < e.nextId
  known : ∀ k id, e.tasks.get? k = some id → ∃ t ∈ e.live, t.id = id ∧ t.key = k

variable {e : MarketDataEngine}

@[simp] theorem polls_createTask (e : MarketDataEngine) (key : String) (feed : SymbolFeed)
    (stagger : ℚ) (k : String) :
    (e.createTask key feed stagger).polls k = e.polls k + if key = k then 1 else 0 := by
  rw [polls, createTask, List.countP_append, List.countP_singleton, polls]
  simp only [decide_eq_true_eq]

theorem Tracked.createTask (h : e.Tracked) (key : String) (feed : SymbolFeed) (stagger : ℚ) :
    (e.createTask key feed stagger).Tracked where
  nodup := by
    rw [MarketDataEngine.createTask, List.map_append, List.map_singleton]
    refine List.nodup_append'.2 ⟨h.nodup, List.nodup_singleton _, ?_⟩
    rw [List.disjoint_singleton]
    intro hid
    obtain ⟨t, ht, hid⟩ := List.mem_map.1 hid
    exact absurd hid (h.fresh t ht).ne
  fresh := by
    intro t ht
    rcases List.mem_append.1 ht with ht | ht
    · exact Nat.lt_succ_of_lt (h.fresh t ht)
    · rw [List.mem_singleton.1 ht]
      exact Nat.lt_succ_self _
  known := by
    intro k id hget
    rw [MarketDataEngine.createTask, Dict.get?_set] at hget
    split at hget
    next hk =>
      cases hget
      exact ⟨_, List.mem_append_right _ List.mem_cons_self, rfl, hk.symm⟩
    next =>
      obtain ⟨t, ht, hsame⟩ := h.known k id hget
      exact ⟨t, List.mem_append_left _ ht, hsame⟩

/-- What the creation of tasks leaves and what it adds. -/
theorem createTasks_spec (h : e.Tracked) (stagger : ℚ) (entries : List (String × SymbolFeed)) :
    (e.createTasks stagger entries).Tracked ∧
      (e.createTasks stagger entries).feeds = e.feeds ∧
      (e.createTasks stagger entries).running = e.running ∧
      ∀ k, (e.createTasks stagger entries).polls k =
        e.polls k + (entries.map Prod.fst).count k := by
  induction entries generalizing e stagger with
  | nil => exact ⟨h, rfl, rfl, fun _ => rfl⟩
  | cons entry entries ih =>
      obtain ⟨key, feed⟩ := entry
      obtain ⟨htracked, hfeeds, hrunning, hpolls⟩ :=
        ih (h.createTask key feed stagger) (stagger + pollStartStaggerSeconds)
      refine ⟨htracked, hfeeds, hrunning, fun k => ?_⟩
      rw [createTasks, hpolls, polls_createTask, List.map_cons, List.count_cons, beq_eq_decide]
      simp only [decide_eq_true_eq]
      omega

/-- A removed key loses the task that the engine knows, and only that one. -/
theorem polls_removeFeed (h : e.Tracked) (key k : String) :
    (e.removeFeed key).polls k +
        (if k = key ∧ (e.tasks.get? k).isSome = true then 1 else 0) = e.polls k := by
  cases htask : e.tasks.get? key with
  | none =>
      have hlive : (e.removeFeed key).live = e.live := by
        rw [removeFeed, htask]
      rw [polls, hlive, if_neg, polls, Nat.add_zero]
      rintro ⟨rfl, hsome⟩
      rw [htask] at hsome
      cases hsome
  | some id =>
      obtain ⟨t, ht, rfl, rfl⟩ := h.known key id htask
      obtain ⟨before, after, hsplit⟩ := List.append_of_mem ht
      have hnodup := h.nodup
      rw [hsplit, List.map_append, List.map_cons, List.nodup_middle, List.nodup_cons,
        ← List.map_append] at hnodup
      have hothers : ∀ u ∈ before ++ after, decide (u.id ≠ t.id) = true := by
        intro u hu
        refine decide_eq_true fun hid => hnodup.1 ?_
        rw [← hid]
        exact List.mem_map_of_mem hu
      have hlive : (e.removeFeed t.key).live = before ++ after := by
        rw [removeFeed, htask]
        change e.live.filter (fun u => u.id ≠ t.id) = before ++ after
        rw [hsplit, List.filter_append, List.filter_cons_of_neg (by simp), ← List.filter_append,
          List.filter_eq_self.2 hothers]
      rw [polls, hlive, polls, hsplit, List.countP_append, List.countP_append, List.countP_cons]
      by_cases hk : k = t.key
      · rw [hk, htask]
        simp
        omega
      · simp [hk, Ne.symm hk]

theorem Tracked.removeFeed (h : e.Tracked) (key : String) : (e.removeFeed key).Tracked := by
  have hsub : (e.removeFeed key).live.Sublist e.live := by
    rw [MarketDataEngine.removeFeed]
    dsimp only
    split
    next => exact List.filter_sublist
    next => exact List.Sublist.refl _
  refine ⟨h.nodup.sublist (hsub.map _), fun t ht => h.fresh t (hsub.subset ht), ?_⟩
  intro k id hget
  rw [MarketDataEngine.removeFeed, Dict.get?_erase] at hget
  split at hget
  next => cases hget
  next hk =>
    obtain ⟨t, ht, hid, hkey⟩ := h.known k id hget
    refine ⟨t, ?_, hid, hkey⟩
    rw [MarketDataEngine.removeFeed]
    dsimp only
    split
    next id' hid' =>
      -- the cancelled task is one of another key
      refine List.mem_filter.2 ⟨ht, decide_eq_true fun hsame => hk ?_⟩
      obtain ⟨u, hu, huid, hukey⟩ := h.known key id' hid'
      have htu : t = u := List.inj_on_of_nodup_map h.nodup ht hu (hsame.trans huid.symm)
      rw [← hkey, htu, hukey]
    next => exact ht

/-- What the removal of some keys leaves. -/
theorem removeFeeds_spec (h : e.Tracked) {keys : List String} (hnodup : keys.Nodup) :
    (keys.foldl MarketDataEngine.removeFeed e).Tracked ∧
      (keys.foldl MarketDataEngine.removeFeed e).running = e.running ∧
      (∀ k, (keys.foldl MarketDataEngine.removeFeed e).feeds.get? k =
        if k ∈ keys then none else e.feeds.get? k) ∧
      ∀ k, (keys.foldl MarketDataEngine.removeFeed e).polls k +
        (if k ∈ keys ∧ (e.tasks.get? k).isSome = true then 1 else 0) = e.polls k := by
  induction keys generalizing e with
  | nil => exact ⟨h, rfl, fun k => (if_neg List.not_mem_nil).symm, fun k => by simp⟩
  | cons key keys ih =>
      obtain ⟨hkey, hnodup⟩ := List.nodup_cons.1 hnodup
      obtain ⟨htracked, hrunning, hfeeds, hpolls⟩ := ih (h.removeFeed key) hnodup
      refine ⟨htracked, hrunning, fun k => ?_, fun k => ?_⟩
      · rw [List.foldl_cons, hfeeds]
        change (if k ∈ keys then none else (e.feeds.erase key).get? k) = _
        rw [Dict.get?_erase]
        by_cases hk : k = key
        · simp [hk]
        · simp [hk]
      · have hone := polls_removeFeed h key k
        have hrest := hpolls k
        rw [List.foldl_cons]
        have htasks : (e.removeFeed key).tasks.get? k =
            if k = key then none else e.tasks.get? k := Dict.get?_erase _ _ _
        rw [htasks] at hrest
        by_cases hk : k = key
        · subst hk
          simp only [hkey, false_and, if_false, true_and, List.mem_cons, true_or] at hone hrest ⊢
          omega
        · simp only [hk, false_and, if_false, List.mem_cons, false_or] at hone hrest ⊢
          omega

theorem subscribed_congr {e' : MarketDataEngine} (h : e'.feeds = e.feeds) (k : String) :
    e'.Subscribed k ↔ e.Subscribed k := by
  rw [Subscribed, h, Subscribed]

theorem mem_keys_iff (e : MarketDataEngine) (k : String) :
    k ∈ e.feeds.entries.map Prod.fst ↔ e.Subscribed k := by
  rw [Subscribed, Option.isSome_iff_ne_none, Dict.get?, ne_eq, Dict.find_eq_none_iff, not_not]

theorem mem_toRemove_iff {target : List (String × String)} {k : String} :
    k ∈ e.toRemove target ↔ e.Subscribed k ∧ k ∉ targetKeys target := by
  rw [toRemove, List.mem_filter, mem_keys_iff, decide_eq_true_eq]

theorem nodup_toRemove (e : MarketDataEngine) (target : List (String × String)) :
    (e.toRemove target).Nodup :=
  e.feeds.nodup_keys.filter _

theorem mem_toAdd_iff {target : List (String × String)} {k : String} :
    k ∈ e.toAdd target ↔ k ∈ targetKeys target ∧ ¬ e.Subscribed k := by
  rw [toAdd, List.mem_filter, Subscribed]
  simp

theorem nodup_toAdd (e : MarketDataEngine) (target : List (String × String)) :
    (e.toAdd target).Nodup :=
  (List.nodup_dedup _).filter _

/-- The new feeds have the keys that they were created for. -/
theorem map_key_toAdd (e : MarketDataEngine) (target : List (String × String))
    (exchangeId : ExchangeID) :
    ((e.toAdd target).map (feedOfKey exchangeId)).map SymbolFeed.key = e.toAdd target := by
  rw [List.map_map]
  refine (List.map_congr_left fun k hk => ?_).trans (List.map_id _)
  obtain ⟨p, -, rfl⟩ := List.mem_map.1 (List.mem_dedup.1 (mem_toAdd_iff.1 hk).1)
  exact key_feedOfKey (colon_mem_feedKey p.1 p.2)

/-- What `reconcile_subscriptions` does before it waits. -/
theorem reconcileFeeds_spec (h : e.Tracked) (target : List (String × String))
    (exchangeId : ExchangeID) :
    (e.reconcileFeeds target exchangeId).Tracked ∧
      (e.reconcileFeeds target exchangeId).running = e.running ∧
      (∀ k, (e.reconcileFeeds target exchangeId).Subscribed k ↔
        k ∈ e.toAdd target ∨ e.Subscribed k ∧ k ∉ e.toRemove target) ∧
      ∀ k, (e.reconcileFeeds target exchangeId).polls k +
        (if k ∈ e.toRemove target ∧ (e.tasks.get? k).isSome = true then 1 else 0) =
          e.polls k := by
  obtain ⟨htracked, hrunning, hfeeds, hpolls⟩ := removeFeeds_spec h (e.nodup_toRemove target)
  refine ⟨⟨htracked.nodup, htracked.fresh, htracked.known⟩, hrunning, fun k => ?_, hpolls⟩
  rw [Subscribed, reconcileFeeds, Dict.get?_foldl_set_map (fun k => k), hfeeds]
  cases hfind : (e.toAdd target).reverse.find? fun a => decide (a = k) with
  | some k' =>
      obtain rfl : k' = k := by simpa only [decide_eq_true_eq] using List.find?_some hfind
      have hmem := List.mem_reverse.1 (List.mem_of_find?_eq_some hfind)
      simp [hmem]
  | none =>
      have hnot : k ∉ e.toAdd target := fun hmem =>
        List.find?_eq_none.1 hfind k (List.mem_reverse.2 hmem) (decide_eq_true rfl)
      by_cases hk : k ∈ e.toRemove target
      · simp [hnot, hk]
      · simp [hnot, hk, Subscribed]

end MarketDataEngine

/-! ### Calls -/

namespace EngineCalls

open MarketDataEngine

@[simp] theorem keys_connecting : SuspendedCall.connecting.keys = [] := rfl

@[simp] theorem keys_starting : SuspendedCall.starting.keys = [] := rfl

/-- The tasks that a call creates have the keys of its feeds. -/
theorem map_fst_keyed (newFeeds : List SymbolFeed) :
    (newFeeds.map fun f => (f.key, f)).map Prod.fst = (SuspendedCall.adding newFeeds).keys := by
  rw [List.map_map]
  rfl

/-- What holds in every interleaving: an engine that does not run has no poll tasks and no calls
that will create some, and in a running one each feed has a task or will get one. -/
structure Sound (s : EngineCalls) : Prop where
  tracked : s.engine.Tracked
  idle : s.engine.running = false → s.engine.live = [] ∧ ∀ c ∈ s.suspended, c = .connecting
  started : s.engine.running = true → ∀ k, s.engine.Subscribed k →
    .starting ∈ s.suspended ∨ 0 < s.engine.polls k + s.additions k

variable {s : EngineCalls} {c : SuspendedCall} {i : ℕ}

theorem additions_append (e : MarketDataEngine) (suspended suspended' : List SuspendedCall)
    (k : String) : (EngineCalls.mk e (suspended ++ suspended')).additions k =
      (suspended.flatMap SuspendedCall.keys).count k +
        (suspended'.flatMap SuspendedCall.keys).count k := by
  rw [additions, List.flatMap_append, List.count_append]

/-- A call that goes on leaves the others suspended. -/
theorem perm_of_getElem? (h : s.suspended[i]? = some c) :
    s.suspended.Perm (c :: s.suspended.eraseIdx i) := by
  obtain ⟨hlt, rfl⟩ := List.getElem?_eq_some_iff.1 h
  exact (List.getElem_cons_eraseIdx_perm hlt).symm

theorem additions_resumed (h : s.suspended[i]? = some c) (e : MarketDataEngine) (k : String) :
    s.additions k = c.keys.count k + (EngineCalls.mk e (s.suspended.eraseIdx i)).additions k := by
  rw [additions, ((perm_of_getElem? h).flatMap_right _).count_eq, List.flatMap_cons,
    List.count_append]
  rfl

theorem starting_mem_eraseIdx (h : s.suspended[i]? = some c) (hc : c ≠ .starting)
    (hstarting : .starting ∈ s.suspended) : .starting ∈ s.suspended.eraseIdx i :=
  (List.mem_cons.1 ((perm_of_getElem? h).mem_iff.1 hstarting)).resolve_left fun heq => hc heq.symm

theorem additions_reconcile (s : EngineCalls) (target : List (String × String))
    (exchangeId : ExchangeID) (k : String) :
    (s.reconcile target exchangeId).additions k = s.additions k +
      if s.engine.running = true ∧ k ∈ s.engine.toAdd target then 1 else 0 := by
  have hcount : (s.engine.toAdd target).count k = if k ∈ s.engine.toAdd target then 1 else 0 :=
    (s.engine.nodup_toAdd target).count
  unfold reconcile
  split
  next hadds =>
    rw [Bool.and_eq_true] at hadds
    rw [additions_append, List.flatMap_singleton, SuspendedCall.keys, map_key_toAdd, hcount,
      additions, hadds.1]
    simp only [true_and]
  next hadds =>
    rw [additions, additions]
    by_cases hk : s.engine.running = true ∧ k ∈ s.engine.toAdd target
    · refine absurd ?_ hadds
      rw [hk.1, Bool.true_and, Bool.not_eq_true', List.isEmpty_eq_false_iff]
      exact List.ne_nil_of_mem hk.2
    · rw [if_neg hk]
      rfl

theorem mem_suspended_reconcile {target : List (String × String)} {exchangeId : ExchangeID}
    (h : c ∈ s.suspended) : c ∈ (s.reconcile target exchangeId).suspended := by
  unfold reconcile
  split
  next => exact List.mem_append_left _ h
  next => exact h

theorem polls_of_live_eq_nil {e : MarketDataEngine} (h : e.live = []) (k : String) :
    e.polls k = 0 := by
  rw [polls, h, List.countP_nil]

/-- No task is going to be created in an engine that does not run. -/
theorem Sound.unpolled (h : s.Sound) (hidle : s.engine.running = false) (k : String) :
    s.Unpolled k := by
  obtain ⟨hlive, hcalls⟩ := h.idle hidle
  refine ⟨polls_of_live_eq_nil hlive k, List.count_eq_zero.2 fun hk => ?_⟩
  obtain ⟨c, hc, hk⟩ := List.mem_flatMap.1 hk
  rw [hcalls c hc] at hk
  cases hk

/-- The tasks that `start` creates come to what its feeds have already. -/
theorem resume_starting_spec (h : s.engine.Tracked) (hcall : s.suspended[i]? = some .starting)
    (raised : Bool) :
    (s.resume i raised .starting).engine.Tracked ∧
      (s.resume i raised .starting).engine.running = s.engine.running ∧
      (∀ k, (s.resume i raised .starting).engine.Subscribed k ↔ s.engine.Subscribed k) ∧
      ∀ k, (s.resume i raised .starting).engine.polls k +
          (s.resume i raised .starting).additions k =
        s.engine.polls k + s.additions k + if s.engine.Subscribed k then 1 else 0 := by
  obtain ⟨htracked, hfeeds, hrunning, hpolls⟩ := createTasks_spec h 0 s.engine.feeds.entries
  refine ⟨htracked, hrunning, subscribed_congr hfeeds, fun k => ?_⟩
  have hcount : (s.engine.feeds.entries.map Prod.fst).count k =
      if s.engine.Subscribed k then 1 else 0 := by
    rw [s.engine.feeds.nodup_keys.count]
    simp only [mem_keys_iff]
  rw [additions_resumed hcall (s.engine.createTasks 0 s.engine.feeds.entries), keys_starting,
    List.count_nil, Nat.zero_add, ← hcount, EngineCalls.resume, hpolls]
  exact Nat.add_right_comm ..

/-- The tasks that `reconcile_subscriptions` creates are those that it had still to create. -/
theorem resume_adding_spec {newFeeds : List SymbolFeed} (h : s.engine.Tracked)
    (hcall : s.suspended[i]? = some (.adding newFeeds)) (raised : Bool) :
    (s.resume i raised (.adding newFeeds)).engine.Tracked ∧
      (s.resume i raised (.adding newFeeds)).engine.running = s.engine.running ∧
      (∀ k, (s.resume i raised (.adding newFeeds)).engine.Subscribed k ↔ s.engine.Subscribed k) ∧
      ∀ k, (s.resume i raised (.adding newFeeds)).engine.polls k +
          (s.resume i raised (.adding newFeeds)).additions k =
        s.engine.polls k + s.additions k := by
  obtain ⟨htracked, hfeeds, hrunning, hpolls⟩ :=
    createTasks_spec h 0 (newFeeds.map fun f => (f.key, f))
  refine ⟨htracked, hrunning, subscribed_congr hfeeds, fun k => ?_⟩
  rw [additions_resumed hcall (s.engine.createTasks 0 (newFeeds.map fun f => (f.key, f))),
    ← map_fst_keyed, EngineCalls.resume, hpolls]
  exact Nat.add_assoc ..

/-! ### What a call preserves -/

theorem Sound.reconcile (h : s.Sound) (target : List (String × String))
    (exchangeId : ExchangeID) : (s.reconcile target exchangeId).Sound := by
  obtain ⟨htracked, hrunning, hsubscribed, hpolls⟩ :=
    reconcileFeeds_spec h.tracked target exchangeId
  refine ⟨htracked, fun hidle => ?_, fun hruns k hk => ?_⟩
  · change (s.engine.reconcileFeeds target exchangeId).running = false at hidle
    rw [hrunning] at hidle
    obtain ⟨hlive, hcalls⟩ := h.idle hidle
    refine ⟨?_, fun c hc => ?_⟩
    · have hnone : ∀ t ∈ (s.engine.reconcileFeeds target exchangeId).live, False := by
        intro t ht
        have hpoll := hpolls t.key
        rw [polls_of_live_eq_nil hlive] at hpoll
        have hpositive : 0 < (s.engine.reconcileFeeds target exchangeId).polls t.key :=
          List.countP_pos_iff.2 ⟨t, ht, decide_eq_true rfl⟩
        omega
      exact List.eq_nil_iff_forall_not_mem.2 hnone
    · rw [EngineCalls.reconcile, hidle] at hc
      exact hcalls c hc
  · change (s.engine.reconcileFeeds target exchangeId).running = true at hruns
    rw [hrunning] at hruns
    have hadds := additions_reconcile s target exchangeId k
    rcases (hsubscribed k).1 hk with hadd | ⟨hold, hkept⟩
    · rw [if_pos ⟨hruns, hadd⟩] at hadds
      exact .inr (by omega)
    · refine (h.started hruns k hold).imp mem_suspended_reconcile fun hpositive => ?_
      have hpoll := hpolls k
      rw [if_neg fun hremoved => hkept hremoved.1] at hpoll
      change 0 < (s.engine.reconcileFeeds target exchangeId).polls k + _
      omega

theorem Sound.beginStart (h : s.Sound) : s.beginStart.Sound where
  tracked := ⟨h.tracked.nodup, h.tracked.fresh, h.tracked.known⟩
  idle := fun hidle => absurd hidle Bool.true_eq_false_eq_False
  started := by
    intro _ k hk
    left
    have hne : s.engine.feeds.entries.isEmpty = false := by
      rw [List.isEmpty_eq_false_iff]
      rintro hnil
      have hmem := (mem_keys_iff s.engine k).2 hk
      rw [hnil] at hmem
      cases hmem
    rw [EngineCalls.beginStart, hne]
    exact List.mem_append_right _ List.mem_cons_self

theorem Sound.start (h : s.Sound) : s.start.Sound := by
  unfold EngineCalls.start
  split
  next => exact h.beginStart
  next =>
    refine ⟨h.tracked, fun hidle => ⟨(h.idle hidle).1, fun c hc => ?_⟩, fun hruns k hk => ?_⟩
    · rcases List.mem_append.1 hc with hc | hc
      · exact (h.idle hidle).2 c hc
      · exact List.mem_singleton.1 hc
    · refine (h.started hruns k hk).imp (List.mem_append_left _) fun hpositive => ?_
      rw [additions_append]
      exact Nat.lt_of_lt_of_le hpositive (Nat.add_le_add_left (Nat.le_add_right _ _) _)

/-- A call that goes on without creating tasks. -/
theorem Sound.eraseIdx (h : s.Sound) (hcall : s.suspended[i]? = some .connecting) :
    (EngineCalls.mk s.engine (s.suspended.eraseIdx i)).Sound := by
  refine ⟨h.tracked, fun hidle => ⟨(h.idle hidle).1, fun c hc => ?_⟩, fun hruns k hk => ?_⟩
  · exact (h.idle hidle).2 c (List.mem_of_mem_eraseIdx hc)
  · refine (h.started hruns k hk).imp (starting_mem_eraseIdx hcall (by simp)) fun hpositive => ?_
    rw [additions_resumed hcall s.engine k] at hpositive
    simpa [SuspendedCall.keys] using hpositive

theorem Sound.running_of_mem (h : s.Sound) (hc : c ∈ s.suspended) (hne : c ≠ .connecting) :
    s.engine.running = true := by
  cases hrunning : s.engine.running with
  | true => rfl
  | false => exact absurd ((h.idle hrunning).2 c hc) hne

theorem Sound.resume (h : s.Sound) (hcall : s.suspended[i]? = some c) (raised : Bool) :
    (s.resume i raised c).Sound := by
  have hmem := List.mem_of_getElem? hcall
  cases c with
  | connecting =>
      rw [EngineCalls.resume]
      split
      next => exact h.eraseIdx hcall
      next => exact (h.eraseIdx hcall).beginStart
  | starting =>
      have hruns := h.running_of_mem hmem (by simp)
      obtain ⟨htracked, hrunning, hsubscribed, htasks⟩ :=
        resume_starting_spec h.tracked hcall raised
      refine ⟨htracked, fun hidle => ?_, fun _ k hk => .inr ?_⟩
      · exact absurd (hrunning.symm.trans hidle) (by simp [hruns])
      · rw [htasks, if_pos ((hsubscribed k).1 hk)]
        exact Nat.succ_pos _
  | adding newFeeds =>
      have hruns := h.running_of_mem hmem (by simp)
      obtain ⟨htracked, hrunning, hsubscribed, htasks⟩ :=
        resume_adding_spec h.tracked hcall raised
      refine ⟨htracked, fun hidle => ?_, fun _ k hk => ?_⟩
      · exact absurd (hrunning.symm.trans hidle) (by simp [hruns])
      · rw [htasks]
        exact (h.started hruns k ((hsubscribed k).1 hk)).imp_left
          (starting_mem_eraseIdx hcall (by simp))

/-! ### Whether a call keeps the tasks apart -/

theorem atMostOnce_reconcile_iff (h : s.Sound) (target : List (String × String))
    (exchangeId : ExchangeID) :
    (s.reconcile target exchangeId).AtMostOnce ↔
      s.AtMostOnce ∧ s.NoOverlap (.reconcile target exchangeId) := by
  obtain ⟨-, -, hsubscribed, hpolls⟩ := reconcileFeeds_spec h.tracked target exchangeId
  rw [AtMostOnce, AtMostOnce, NoOverlap, ← forall_and]
  refine forall_congr' fun k => ?_
  have hpoll := hpolls k
  have hadds := additions_reconcile s target exchangeId k
  have hremove : k ∈ s.engine.toRemove target → s.engine.Subscribed k :=
    fun hk => (mem_toRemove_iff.1 hk).1
  have hadd : k ∈ s.engine.toAdd target → ¬ s.engine.Subscribed k :=
    fun hk => (mem_toAdd_iff.1 hk).2
  change (s.engine.reconcileFeeds target exchangeId).polls k +
    (s.reconcile target exchangeId).additions k ≤
      (if (s.engine.reconcileFeeds target exchangeId).Subscribed k then 1 else 0) ↔ _
  rw [hadds, Unpolled]
  simp only [hsubscribed k]
  by_cases hremoved : k ∈ s.engine.toRemove target
  · have hold := hremove hremoved
    have hnew : k ∉ s.engine.toAdd target := fun hk => hadd hk hold
    simp only [hremoved, hold, hnew, true_and, and_false, not_true_eq_false, or_self, if_true,
      if_false, forall_true_left] at hpoll ⊢
    by_cases htask : (s.engine.tasks.get? k).isSome = true
    · simp only [htask, if_true, true_or, and_true] at hpoll ⊢
      omega
    · simp only [htask, Bool.false_eq_true, if_false, false_or] at hpoll ⊢
      omega
  · by_cases hnew : k ∈ s.engine.toAdd target
    · have hold := hadd hnew
      simp only [hremoved, hold, hnew, false_and, and_true, true_or, if_true, if_false,
        IsEmpty.forall_iff] at hpoll ⊢
      cases hruns : s.engine.running with
      | true =>
          simp only [if_true]
          omega
      | false =>
          obtain ⟨hzero, hnone⟩ := h.unpolled hruns k
          simp only [Bool.false_eq_true, if_false]
          omega
    · simp only [hremoved, hnew, false_and, and_false, false_or, not_false_eq_true, and_true,
        if_false, IsEmpty.forall_iff] at hpoll ⊢
      omega

theorem atMostOnce_congr {t : EngineCalls}
    (hpolls : ∀ k, t.engine.polls k + t.additions k = s.engine.polls k + s.additions k)
    (hsubscribed : ∀ k, t.engine.Subscribed k ↔ s.engine.Subscribed k) :
    t.AtMostOnce ↔ s.AtMostOnce := by
  refine forall_congr' fun k => ?_
  simp only [hpolls, hsubscribed]

theorem atMostOnce_beginStart_iff : s.beginStart.AtMostOnce ↔ s.AtMostOnce := by
  refine atMostOnce_congr (fun k => ?_) fun _ => Iff.rfl
  unfold beginStart
  split
  next => rfl
  next =>
    rw [additions_append]
    rfl

theorem atMostOnce_start_iff : s.start.AtMostOnce ↔ s.AtMostOnce := by
  unfold EngineCalls.start
  split
  next => exact atMostOnce_beginStart_iff
  next =>
    refine atMostOnce_congr (fun k => ?_) fun _ => Iff.rfl
    rw [additions_append]
    rfl

theorem atMostOnce_resume_iff (h : s.Sound) (hcall : s.suspended[i]? = some c) (raised : Bool) :
    (s.resume i raised c).AtMostOnce ↔ s.AtMostOnce ∧ s.NoOverlap (.resumed i raised) := by
  have hgo : c ≠ .starting → ((s.resume i raised c).AtMostOnce ↔ s.AtMostOnce) →
      ((s.resume i raised c).AtMostOnce ↔ s.AtMostOnce ∧ s.NoOverlap (.resumed i raised)) := by
    intro hc hiff
    refine hiff.trans (and_iff_left fun hstarting => ?_).symm
    exact absurd (Option.some.inj (hcall.symm.trans hstarting)) hc
  cases c with
  | connecting =>
      refine hgo (by simp) ?_
      have herase : (EngineCalls.mk s.engine (s.suspended.eraseIdx i)).AtMostOnce ↔
          s.AtMostOnce := by
        refine atMostOnce_congr (fun k => ?_) fun _ => Iff.rfl
        rw [additions_resumed hcall s.engine k, keys_connecting, List.count_nil, Nat.zero_add]
      rw [resume]
      split
      next => exact herase
      next => exact atMostOnce_beginStart_iff.trans herase
  | starting =>
      obtain ⟨-, -, hsubscribed, htasks⟩ := resume_starting_spec h.tracked hcall raised
      rw [AtMostOnce, AtMostOnce, NoOverlap, imp_iff_right hcall, ← forall_and]
      refine forall_congr' fun k => ?_
      rw [htasks, Unpolled]
      simp only [hsubscribed k]
      by_cases hk : s.engine.Subscribed k
      · simp only [hk, if_true, forall_true_left]
        omega
      · simp only [hk, if_false, IsEmpty.forall_iff, and_true, Nat.add_zero]
  | adding newFeeds =>
      obtain ⟨-, -, hsubscribed, htasks⟩ := resume_adding_spec h.tracked hcall raised
      exact hgo (by simp) (atMostOnce_congr htasks hsubscribed)

/-! ### Runs -/

theorem tracked_init (connected : Bool) (subscriptions : List SymbolFeed) :
    (init connected subscriptions).engine.Tracked ∧
      (init connected subscriptions).engine.running = false ∧
      (init connected subscriptions).engine.live = [] := by
  have hsubscribe : ∀ e : MarketDataEngine, e.tasks = Dict.empty ∧ e.running = false ∧ e.live = [] →
      ((subscriptions.foldl subscribe e).tasks = Dict.empty ∧
        (subscriptions.foldl subscribe e).running = false ∧
        (subscriptions.foldl subscribe e).live = []) := by
    induction subscriptions with
    | nil => exact fun e he => he
    | cons f subscriptions ih =>
        intro e he
        refine ih (e.subscribe f) ?_
        unfold subscribe
        split
        next => exact he
        next => exact he
  obtain ⟨htasks, hrunning, hlive⟩ := hsubscribe (.new connected) ⟨rfl, rfl, rfl⟩
  refine ⟨⟨?_, ?_, ?_⟩, hrunning, hlive⟩
  · rw [init, hlive]
    exact List.nodup_nil
  · rw [init, hlive]
    exact fun t ht => absurd ht List.not_mem_nil
  · rw [init, htasks]
    intro k id hget
    rw [Dict.get?_empty] at hget
    cases hget

theorem sound_init (connected : Bool) (subscriptions : List SymbolFeed) :
    (init connected subscriptions).Sound := by
  obtain ⟨htracked, hrunning, hlive⟩ := tracked_init connected subscriptions
  refine ⟨htracked, fun _ => ⟨hlive, fun c hc => absurd hc List.not_mem_nil⟩, fun hruns => ?_⟩
  rw [hrunning] at hruns
  cases hruns

theorem atMostOnce_init (connected : Bool) (subscriptions : List SymbolFeed) :
    (init connected subscriptions).AtMostOnce := by
  intro k
  rw [polls_of_live_eq_nil (tracked_init connected subscriptions).2.2]
  exact Nat.zero_le _

theorem Sound.next {t : EngineCalls} {event : EngineEvent} (h : s.Sound)
    (hnext : subscriptionMachine.next s event = some t) : t.Sound := by
  cases event with
  | start =>
      cases hnext
      exact h.start
  | reconcile target exchangeId =>
      cases hnext
      exact h.reconcile target exchangeId
  | resumed i raised =>
      obtain ⟨c, hcall, rfl⟩ := Option.map_eq_some_iff.1 hnext
      exact h.resume hcall raised

theorem atMostOnce_next_iff {t : EngineCalls} {event : EngineEvent} (h : s.Sound)
    (hnext : subscriptionMachine.next s event = some t) :
    t.AtMostOnce ↔ s.AtMostOnce ∧ s.NoOverlap event := by
  cases event with
  | start =>
      cases hnext
      exact atMostOnce_start_iff.trans (and_iff_left trivial).symm
  | reconcile target exchangeId =>
      cases hnext
      exact atMostOnce_reconcile_iff h target exchangeId
  | resumed i raised =>
      obtain ⟨c, hcall, rfl⟩ := Option.map_eq_some_iff.1 hnext
      exact atMostOnce_resume_iff h hcall raised

/-- When no call is suspended, each subscribed key of a running engine has at least one task. -/
theorem Sound.pollsSubscribed_iff_atMostOnce (h : s.Sound) (hquiet : s.suspended = []) :
    s.PollsSubscribed ↔ s.AtMostOnce := by
  have hadds : ∀ k, s.additions k = 0 := by
    intro k
    rw [additions, hquiet]
    rfl
  refine forall_congr' fun k => ?_
  rw [hadds, Nat.add_zero]
  cases hruns : s.engine.running with
  | false =>
      rw [(h.unpolled hruns k).1]
      simp
  | true =>
      by_cases hk : s.engine.Subscribed k
      · have hpositive : 0 < s.engine.polls k := by
          have hstarted := h.started hruns k hk
          rw [hquiet, hadds] at hstarted
          simpa using hstarted
        simp only [hk, and_self, if_true]
        omega
      · simp only [hk, and_false, if_false]
        omega

end EngineCalls

/-- When all calls have returned, the poll tasks are those of the subscribed keys exactly if no
call has removed a feed before it had its task and no `start` has come to feeds that had one or
were being added. -/
theorem pollsSubscribed_iff {connected : Bool} {subscriptions : List SymbolFeed}
    {events : List EngineEvent} {s : EngineCalls}
    (hrun : subscriptionMachine.run (.init connected subscriptions) events = some s)
    (hquiet : s.suspended = []) :
    s.PollsSubscribed ↔
      subscriptionMachine.Guarded EngineCalls.NoOverlap (.init connected subscriptions) events := by
  have hinit := EngineCalls.sound_init connected subscriptions
  have hnext : ∀ s event t, EngineCalls.Sound s → subscriptionMachine.next s event = some t →
      t.Sound := fun _ _ _ h hnext => h.next hnext
  have hsound : s.Sound := subscriptionMachine.run_invariant EngineCalls.Sound hnext hinit hrun
  have honce : s.AtMostOnce ↔ (EngineCalls.init connected subscriptions).AtMostOnce ∧
      subscriptionMachine.Guarded EngineCalls.NoOverlap (.init connected subscriptions) events :=
    subscriptionMachine.run_iff_guarded hnext
      (fun _ _ _ h hnext => EngineCalls.atMostOnce_next_iff h hnext) hinit hrun
  rw [hsound.pollsSubscribed_iff_atMostOnce hquiet, honce,
    and_iff_right (EngineCalls.atMostOnce_init connected subscriptions)]

/-- A feed of one-hour candles of BTC. -/
def SymbolFeed.btcHours : SymbolFeed := ⟨"BTC/USDT", "1h", .binance⟩

/-- A start, and then a reconciliation that adds a feed and removes another. -/
def reconcileAfterStart : List EngineEvent :=
  [.start, .resumed 0 false, .reconcile [("ETH/USDT", "1h")] .binance, .resumed 0 false]

theorem pollsSubscribed_iff_reconcileAfterStart :
    ∃ s, subscriptionMachine.run (.init true [.btcHours]) reconcileAfterStart = some s ∧
      (s.PollsSubscribed ↔
        subscriptionMachine.Guarded EngineCalls.NoOverlap (.init true [.btcHours])
          reconcileAfterStart) :=
  ⟨_, rfl, @pollsSubscribed_iff true [.btcHours] reconcileAfterStart _ rfl rfl⟩

/-- A feed that is added while `start` initializes the others is polled twice. -/
theorem not_forall_pollsSubscribed :
    ¬ ∀ (connected : Bool) (subscriptions : List SymbolFeed) (events : List EngineEvent)
      (s : EngineCalls),
      subscriptionMachine.run (.init connected subscriptions) events = some s →
      s.suspended = [] → s.PollsSubscribed := by
  intro h
  have hpolls := h true [.btcHours]
    [.start, .reconcile [("BTC/USDT", "1h"), ("ETH/USDT", "1h")] .binance, .resumed 0 false,
      .resumed 0 false] _ rfl rfl "ETH/USDT:1h"
  revert hpolls
  decide +kernel

end Sgr
