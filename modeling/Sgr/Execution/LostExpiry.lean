import Sgr.Execution.GridRateLimiter

/-!
# Counters that lose their expiry

When the command that creates a counter succeeds and EXPIRE after it does not, because the reply is
lost, EXPIRE fails or the process dies, the counter stays in Redis for good. The calls that Redis
counts on it use the budget up once and for all.
-/

open Collection Concurrency

namespace Sgr

/-- No call with the key is under way, and for a window none has been. -/
def LimiterKey.Rested (l : GridRateLimiter) (k : LimiterKey) (now : ℚ) : Prop :=
  k.expiring = 0 ∧ ∀ last ∈ k.lastActive, last + l.windowSeconds ≤ now

/-- After a rest the next call is let through by a Redis that works. -/
def LimiterKey.Recovers (l : GridRateLimiter) (now : ℚ) (k : LimiterKey) : Prop :=
  ∀ time, now ≤ time → k.Rested l time → l.acquire (some (.counted (k.countAt time))) = true

/-- Every key recovers. -/
def LimiterState.Recovers (l : GridRateLimiter) (s : LimiterState) : Prop :=
  ∀ key, (s.calls key).Recovers l s.now

/-- The budget is used up on a counter that does not expire, and no call is about to send EXPIRE. -/
def LimiterKey.Stuck (l : GridRateLimiter) (k : LimiterKey) : Prop :=
  k.expiring = 0 ∧ ∃ c ∈ k.counter, c.expiresAt = none ∧ l.maxCalls ≤ c.count

/-- A command leaves the budget used up on a counter that does not expire: INCR counts the last
call of the budget on a counter that no call gives a time to live any more, or the one call that
would do so fails or dies when the budget is already used up. -/
def LimiterKey.Strands (l : GridRateLimiter) (k : LimiterKey) (now : ℚ) : LimiterCommand → Prop
  | .incr reply =>
      reply.applied = true ∧ l.maxCalls ≤ k.countAt now ∧ k.expiring = 0 ∧
        match ExpiringCounter.live now k.counter with
        | none => reply ≠ .done
        | some c => c.expiresAt = none
  | .expire reply => reply.applied = false ∧ ∃ c ∈ k.counter, l.maxCalls ≤ c.count
  | .died => ∃ c ∈ k.counter, l.maxCalls ≤ c.count

/-- The command of an event does so. -/
def LimiterEvent.Strands (l : GridRateLimiter) (s : LimiterState) (e : LimiterEvent) : Prop :=
  (s.calls e.call.key).Strands l e.time e.command

/-- What the calls with a key keep to, whatever fails. -/
structure LimiterKey.KeepsExpiry (l : GridRateLimiter) (now : ℚ) (k : LimiterKey) : Prop where
  count_pos : ∀ c ∈ k.counter, 0 < c.count
  expiring_le : k.expiring ≤ 1
  expiring : 0 < k.expiring → ∃ c ∈ k.counter, c.expiresAt = none
  expiresAt_le : ∀ c ∈ k.counter, ∃ last ∈ k.lastActive, last ≤ now ∧
    ∀ e ∈ c.expiresAt, e ≤ last + l.windowSeconds

/-- Every key keeps to it. -/
def LimiterState.KeepsExpiry (l : GridRateLimiter) (s : LimiterState) : Prop :=
  ∀ key, (s.calls key).KeepsExpiry l s.now

section Expiry

variable {l : GridRateLimiter} {k k' : LimiterKey} {now time : ℚ} {s t : LimiterState}
  {e : LimiterEvent}

theorem LimiterKey.KeepsExpiry.init (l : GridRateLimiter) (now : ℚ) :
    LimiterKey.KeepsExpiry l now {} where
  count_pos c hc := by cases hc
  expiring_le := Nat.zero_le 1
  expiring h := absurd h (lt_irrefl 0)
  expiresAt_le c hc := by cases hc

theorem LimiterKey.KeepsExpiry.mono (h : k.KeepsExpiry l now) (hle : now ≤ time) :
    k.KeepsExpiry l time :=
  { h with
    expiresAt_le := fun c hc => by
      obtain ⟨last, hlast, hnow, hexpires⟩ := h.expiresAt_le c hc
      exact ⟨last, hlast, hnow.trans hle, hexpires⟩ }

/-- A counter expires a window after now at the latest. -/
theorem LimiterKey.KeepsExpiry.expiresAt_le_now (h : k.KeepsExpiry l now) {c : ExpiringCounter ℚ}
    (hc : c ∈ k.counter) {expiry : ℚ} (hexpiry : expiry ∈ c.expiresAt) :
    expiry ≤ now + l.windowSeconds := by
  obtain ⟨last, -, hnow, hexpires⟩ := h.expiresAt_le c hc
  exact (hexpires expiry hexpiry).trans (add_le_add_left hnow _)

/-- The counter of a call that is about to send EXPIRE does not expire. -/
theorem LimiterKey.KeepsExpiry.exists_of_expiring (h : k.KeepsExpiry l now)
    (hexpiring : 0 < k.expiring) : k.expiring = 1 ∧ ∃ count, k.counter = some ⟨count, none⟩ := by
  obtain ⟨⟨count, expiresAt⟩, hc, hnone⟩ := h.expiring hexpiring
  cases hnone
  exact ⟨le_antisymm h.expiring_le hexpiring, count, hc⟩

/-- A key recovers exactly if it is not stuck. -/
theorem LimiterKey.KeepsExpiry.recovers_iff (h : k.KeepsExpiry l now) (hmax : 1 ≤ l.maxCalls) :
    k.Recovers l now ↔ ¬ k.Stuck l := by
  constructor
  · rintro hrecovers ⟨hexpiring, ⟨count, expiresAt⟩, hc, hnone, hfull⟩
    cases hnone
    obtain ⟨last, hlast, -⟩ := h.expiresAt_le _ hc
    have hallowed := hrecovers (max now (last + l.windowSeconds)) (le_max_left _ _)
      ⟨hexpiring, fun last' hlast' => by
        rw [hlast] at hlast'
        cases hlast'
        exact le_max_right _ _⟩
    rw [acquire_counted, countAt, Option.mem_def.1 hc,
      ExpiringCounter.incr_of_live_some ExpiringCounter.live_some_of_none,
      decide_eq_true_eq] at hallowed
    exact absurd hfull (Nat.not_le.2 hallowed)
  · intro hstuck time hle hrested
    rw [acquire_counted, countAt, decide_eq_true_eq]
    cases hlive : ExpiringCounter.live time k.counter with
    | none => rwa [ExpiringCounter.incr_of_live_none hlive]
    | some c =>
        rw [ExpiringCounter.incr_of_live_some hlive]
        have hc := ExpiringCounter.eq_some_of_live hlive
        refine Nat.lt_of_not_le fun hfull => hstuck ⟨hrested.1, c, hc, ?_, hfull⟩
        cases hexpiresAt : c.expiresAt with
        | none => rfl
        | some expiry =>
            -- the counter would have expired in the rest
            obtain ⟨last, hlast, -, hexpires⟩ := h.expiresAt_le c hc
            have hover := (hexpires expiry hexpiresAt).trans (hrested.2 last hlast)
            rw [hc, ExpiringCounter.live_eq_none_iff.2 ⟨expiry, hexpiresAt, hover⟩] at hlive
            cases hlive

/-- INCR that Redis executes creates the counter or leaves its expiry as it is. -/
theorem LimiterKey.KeepsExpiry.expiresAt_incr_le (h : k.KeepsExpiry l now) (hle : now ≤ time) :
    ∀ e ∈ (ExpiringCounter.incr time k.counter).expiresAt, e ≤ time + l.windowSeconds := by
  cases hlive : ExpiringCounter.live time k.counter with
  | none =>
      rw [ExpiringCounter.incr_of_live_none hlive]
      intro e he
      cases he
  | some c =>
      rw [ExpiringCounter.incr_of_live_some hlive]
      exact fun e he => (h.mono hle).expiresAt_le_now (ExpiringCounter.eq_some_of_live hlive) he

/-- INCR creates a counter exactly if it returns one. -/
theorem LimiterKey.KeepsExpiry.countAt_eq_one_iff (h : k.KeepsExpiry l now) :
    k.countAt time = 1 ↔ ExpiringCounter.live time k.counter = none := by
  rw [countAt]
  cases hlive : ExpiringCounter.live time k.counter with
  | none => simp [ExpiringCounter.incr_of_live_none hlive]
  | some c =>
      have hpos := h.count_pos c (ExpiringCounter.eq_some_of_live hlive)
      rw [ExpiringCounter.incr_of_live_some hlive]
      simp [hpos.ne']

/-- A call that creates the counter is the only one that is about to send EXPIRE. -/
theorem LimiterKey.KeepsExpiry.expiring_eq_zero (h : k.KeepsExpiry l now)
    (hlive : ExpiringCounter.live time k.counter = none) : k.expiring = 0 := by
  refine Nat.eq_zero_of_not_pos fun hpos => ?_
  obtain ⟨-, count, hcounter⟩ := h.exists_of_expiring hpos
  rw [hcounter, ExpiringCounter.live_some_of_none] at hlive
  cases hlive

/-- After INCR was executed. -/
theorem LimiterKey.KeepsExpiry.of_incr (h : k.KeepsExpiry l now) (hle : now ≤ time)
    (hcounter : k'.counter = some (ExpiringCounter.incr time k.counter))
    (hactive : k'.lastActive = some time)
    (hexpiring : k'.expiring = k.expiring ∨
      ExpiringCounter.live time k.counter = none ∧ k'.expiring = 1) :
    k'.KeepsExpiry l time where
  count_pos c hc := by
    rw [hcounter] at hc
    cases hc
    exact ExpiringCounter.count_incr_pos time k.counter
  expiring_le := by
    rcases hexpiring with hsame | ⟨-, hone⟩
    · rw [hsame]
      exact h.expiring_le
    · exact hone.le
  expiring hpos := by
    refine ⟨_, hcounter, ?_⟩
    rcases hexpiring with hsame | ⟨hlive, -⟩
    · rw [hsame] at hpos
      obtain ⟨-, count, hcount⟩ := h.exists_of_expiring hpos
      rw [hcount, ExpiringCounter.incr_of_live_some ExpiringCounter.live_some_of_none]
    · rw [ExpiringCounter.incr_of_live_none hlive]
  expiresAt_le c hc := by
    rw [hcounter] at hc
    cases hc
    exact ⟨time, hactive, le_rfl, h.expiresAt_incr_le hle⟩

/-- After the last command of the call that has created the counter, which has left the counter as
it was or given it a time to live. -/
theorem LimiterKey.KeepsExpiry.of_expiring (h : k.KeepsExpiry l now) (hpos : 0 < k.expiring)
    (hexpiring : k'.expiring = k.expiring - 1) (hactive : k'.lastActive = some time)
    (hcounter : k'.counter = k.counter ∨
      k'.counter = ExpiringCounter.expire time (l.windowSeconds : ℚ) k.counter) :
    k'.KeepsExpiry l time := by
  obtain ⟨hone, count, hcount⟩ := h.exists_of_expiring hpos
  have hzero : k'.expiring = 0 := by rw [hexpiring, hone]
  have hcount_pos := h.count_pos _ hcount
  rw [hcount, ExpiringCounter.expire_of_live_some ExpiringCounter.live_some_of_none] at hcounter
  obtain ⟨expiresAt, hcounter, hle_expiry⟩ : ∃ expiresAt, k'.counter = some ⟨count, expiresAt⟩ ∧
      ∀ e ∈ expiresAt, e ≤ time + l.windowSeconds := by
    rcases hcounter with hsame | hset
    · exact ⟨none, hsame, fun e he => by cases he⟩
    · refine ⟨_, hset, fun e he => ?_⟩
      cases he
      exact le_rfl
  refine ⟨fun c hc => ?_, hzero.le.trans (Nat.zero_le 1), fun hpos => ?_, fun c hc => ?_⟩
  · rw [hcounter] at hc
    cases hc
    exact hcount_pos
  · exact absurd hpos hzero.not_gt
  · rw [hcounter] at hc
    cases hc
    exact ⟨time, hactive, le_rfl, hle_expiry⟩

/-- What the calls with a key keep to is kept by every command, whatever becomes of it. -/
theorem LimiterKey.KeepsExpiry.next {command : LimiterCommand} (h : k.KeepsExpiry l now)
    (hle : now ≤ time) (hnext : k.next l time command = some k') : k'.KeepsExpiry l time := by
  cases command with
  | incr reply =>
      cases hnext
      cases reply with
      | done =>
          refine h.of_incr hle rfl rfl ?_
          change (if k.countAt time = 1 then k.expiring + 1 else k.expiring) = k.expiring ∨
            _ ∧ (if k.countAt time = 1 then k.expiring + 1 else k.expiring) = 1
          by_cases hone : k.countAt time = 1
          · have hlive := h.countAt_eq_one_iff.1 hone
            exact .inr ⟨hlive, by rw [if_pos hone, h.expiring_eq_zero hlive]⟩
          · exact .inl (if_neg hone)
      | raised applied error =>
          cases applied with
          | true => exact h.of_incr hle rfl rfl (.inl rfl)
          | false =>
              exact
                { count_pos := h.count_pos
                  expiring_le := h.expiring_le
                  expiring := h.expiring
                  expiresAt_le := fun c hc => ⟨time, rfl, le_rfl,
                    fun e he => (h.mono hle).expiresAt_le_now hc he⟩ }
  | expire reply =>
      obtain ⟨hpos, hnext⟩ := Option.ite_none_right_eq_some.1 hnext
      cases hnext
      refine h.of_expiring hpos rfl rfl ?_
      cases hreply : reply.applied with
      | true => exact .inr (if_pos hreply)
      | false => exact .inl (by simp [LimiterKey.expire, hreply])
  | died =>
      obtain ⟨hpos, hnext⟩ := Option.ite_none_right_eq_some.1 hnext
      cases hnext
      exact h.of_expiring hpos rfl rfl (.inl rfl)

/-- INCR that Redis does not execute leaves the key as stuck as it was. -/
theorem LimiterKey.stuck_incr_iff_of_not_applied {reply : RedisReply}
    (hreply : reply.applied = false) : (k.incr l time reply).Stuck l ↔ k.Stuck l := by
  cases reply with
  | done => cases hreply
  | raised applied error =>
      cases hreply
      exact Iff.rfl

/-- INCR leaves the key stuck exactly if it strands the counter. -/
theorem LimiterKey.KeepsExpiry.stuck_incr_iff (h : k.KeepsExpiry l now) (hstuck : ¬ k.Stuck l)
    (reply : RedisReply) :
    (k.incr l time reply).Stuck l ↔ k.Strands l time (.incr reply) := by
  unfold LimiterKey.Strands
  cases hreply : reply.applied with
  | false => simp [hreply, LimiterKey.stuck_incr_iff_of_not_applied hreply, hstuck]
  | true =>
      have hcount : k.countAt time = (ExpiringCounter.incr time k.counter).count := rfl
      cases hlive : ExpiringCounter.live time k.counter with
      | none =>
          -- the counter is created, and its call sends EXPIRE if it gets the reply
          have hone := h.countAt_eq_one_iff.2 hlive
          have hzero := h.expiring_eq_zero hlive
          cases reply with
          | done => simp [LimiterKey.Stuck, LimiterKey.incr, hone]
          | raised applied error =>
              cases hreply
              simp [LimiterKey.Stuck, LimiterKey.incr, LimiterKey.count, RedisReply.applied, hzero,
                hone, ExpiringCounter.incr_of_live_none hlive]
      | some c =>
          have hne : k.countAt time ≠ 1 := fun hone => by
            rw [h.countAt_eq_one_iff.1 hone] at hlive
            cases hlive
          rw [ExpiringCounter.incr_of_live_some hlive] at hcount
          have hcounted : (k.incr l time reply).expiring = k.expiring ∧
              (k.incr l time reply).counter = some ⟨c.count + 1, c.expiresAt⟩ := by
            rw [← ExpiringCounter.incr_of_live_some hlive]
            cases reply with
            | done => exact ⟨if_neg hne, rfl⟩
            | raised applied error =>
                cases hreply
                exact ⟨rfl, rfl⟩
          rw [LimiterKey.Stuck, hcounted.1, hcounted.2, hcount]
          simp [hreply, and_comm, and_left_comm]

/-- A command leaves the key stuck exactly if it strands the counter. -/
theorem LimiterKey.KeepsExpiry.stuck_next_iff {command : LimiterCommand}
    (h : k.KeepsExpiry l now) (hstuck : ¬ k.Stuck l) (hnext : k.next l time command = some k') :
    k'.Stuck l ↔ k.Strands l time command := by
  cases command with
  | incr reply =>
      cases hnext
      exact h.stuck_incr_iff hstuck reply
  | expire reply =>
      obtain ⟨hpos, hnext⟩ := Option.ite_none_right_eq_some.1 hnext
      cases hnext
      obtain ⟨hone, count, hcount⟩ := h.exists_of_expiring hpos
      cases hreply : reply.applied with
      | true =>
          simp [LimiterKey.Stuck, LimiterKey.Strands, LimiterKey.expire, hreply, hcount,
            ExpiringCounter.expire_of_live_some ExpiringCounter.live_some_of_none]
      | false =>
          simp [LimiterKey.Stuck, LimiterKey.Strands, LimiterKey.expire, hreply, hcount, hone]
  | died =>
      obtain ⟨hpos, hnext⟩ := Option.ite_none_right_eq_some.1 hnext
      cases hnext
      obtain ⟨hone, count, hcount⟩ := h.exists_of_expiring hpos
      simp [LimiterKey.Stuck, LimiterKey.Strands, LimiterKey.died, hcount, hone]

theorem LimiterState.KeepsExpiry.next (h : s.KeepsExpiry l)
    (hnext : (limiterMachine l).next s e = some t) : t.KeepsExpiry l := by
  obtain ⟨hle, k, hk, rfl⟩ := limiterMachine_next_eq_some_iff.1 hnext
  exact (Function.forall_update_iff s.calls (p := fun _ k => k.KeepsExpiry l e.time)).2
    ⟨(h e.call.key).next hle hk, fun key _ => (h key).mono hle⟩

/-- A state in which every key recovers comes to such a state exactly if the command strands no
counter. -/
theorem LimiterState.KeepsExpiry.recovers_next_iff (h : s.KeepsExpiry l) (hmax : 1 ≤ l.maxCalls)
    (hs : s.Recovers l) (hnext : (limiterMachine l).next s e = some t) :
    t.Recovers l ↔ ¬ e.Strands l s := by
  have ht := h.next hnext
  have hstuck : ∀ key, ¬ (s.calls key).Stuck l := fun key =>
    ((h key).recovers_iff hmax).1 (hs key)
  obtain ⟨hle, k, hk, rfl⟩ := limiterMachine_next_eq_some_iff.1 hnext
  rw [LimiterState.Recovers, forall_congr' fun key => (ht key).recovers_iff hmax,
    Function.forall_update_iff s.calls (p := fun _ k => ¬ k.Stuck l),
    (h e.call.key).stuck_next_iff (hstuck _) hk]
  exact and_iff_left fun key _ => hstuck key

theorem LimiterState.keepsExpiry_init (l : GridRateLimiter) (start : ℚ) :
    (LimiterState.init start).KeepsExpiry l := fun _ => .init l start

/-- A limiter that has not been called recovers exactly if it has a budget. -/
theorem LimiterState.recovers_init_iff (l : GridRateLimiter) (start : ℚ) :
    (LimiterState.init start).Recovers l ↔ 1 ≤ l.maxCalls := by
  constructor
  · intro h
    have hallowed := h "" start le_rfl ⟨rfl, fun last hlast => by cases hlast⟩
    rwa [acquire_counted, decide_eq_true_eq] at hallowed
  · rintro hmax key
    refine ((LimiterKey.KeepsExpiry.init l start).recovers_iff hmax).2 ?_
    rintro ⟨-, c, hc, -⟩
    cases hc

/-- Along a run, after a rest the next call is always let through by a Redis that works, exactly if
the limiter has a budget and no command strands a counter. -/
theorem along_recovers_iff (l : GridRateLimiter) (start : ℚ) {events : List LimiterEvent}
    (hrun : (limiterMachine l).run (.init start) events = some s) :
    (limiterMachine l).Along (fun s => s.Recovers l) (.init start) events ↔
      1 ≤ l.maxCalls ∧
        (limiterMachine l).Guarded (fun s e => ¬ e.Strands l s) (.init start) events := by
  have hiff (hmax : 1 ≤ l.maxCalls) := (limiterMachine l).along_iff_guarded
    (fun s e t hs hnext => hs.next hnext)
    (fun s e t hs hrecovers hnext => hs.recovers_next_iff hmax hrecovers hnext)
    (LimiterState.keepsExpiry_init l start)
    ((LimiterState.recovers_init_iff l start).2 hmax) hrun
  constructor
  · intro halong
    have hmax := (LimiterState.recovers_init_iff l start).1 halong.start
    exact ⟨hmax, (hiff hmax).1 halong⟩
  · rintro ⟨hmax, hguarded⟩
    exact (hiff hmax).2 hguarded

end Expiry

/-- A call that gives its counter a time to live, and a second one. -/
theorem along_recovers_iff_twoCalls :
    (limiterMachine {}).Along (fun s => s.Recovers {}) (.init 0)
        [.incrAt 0, .expireAt 0, .incrAt 1] ↔
      1 ≤ ({} : GridRateLimiter).maxCalls ∧ (limiterMachine {}).Guarded
        (fun s e => ¬ e.Strands {} s) (.init 0) [.incrAt 0, .expireAt 0, .incrAt 1] :=
  along_recovers_iff {} 0 rfl

/-- EXPIRE after the first of twenty calls fails. -/
def LimiterEvent.expiryLost : List LimiterEvent :=
  .incrAt 0 :: ⟨.orders, 0, .expire (.raised false "connection reset")⟩ ::
    List.replicate 19 (.incrAt 1)

/-- After a rest of a minute the next call is refused. -/
theorem not_along_recovers :
    ¬ ∀ (l : GridRateLimiter) (start : ℚ) (events : List LimiterEvent) (s : LimiterState),
      1 ≤ l.maxCalls → (limiterMachine l).run (.init start) events = some s →
        (limiterMachine l).Along (fun s => s.Recovers l) (.init start) events := by
  intro h
  have hstate : ((limiterMachine {}).run (.init 0) LimiterEvent.expiryLost).map (fun s =>
      (s.now, (s.calls AcquireCall.orders.key).expiring,
        (s.calls AcquireCall.orders.key).lastActive,
        (s.calls AcquireCall.orders.key).countAt 61)) = some (1, 0, some 1, 21) := by
    decide +kernel
  obtain ⟨s, hrun, hstate⟩ := Option.map_eq_some_iff.1 hstate
  simp only [Prod.mk.injEq] at hstate
  obtain ⟨hnow, hexpiring, hactive, hcount⟩ := hstate
  have hrecovers := (h {} 0 _ s (by decide) hrun).of_run _ hrun
  have hallowed := hrecovers AcquireCall.orders.key 61 (by rw [hnow]; decide) ⟨hexpiring, by
    rw [hactive]
    rintro last ⟨⟩
    decide +kernel⟩
  rw [acquire_counted, hcount] at hallowed
  revert hallowed
  decide

end Sgr
