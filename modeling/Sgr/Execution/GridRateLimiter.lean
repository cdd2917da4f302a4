import Mathlib.Algebra.Order.Field.Rat
import Sgr.Collection.RateWindows
import Sgr.Collection.Series
import Sgr.Core.EventBus

/-!
# The rate limiter of the grids

`sgr/execution/grid_rate_limiter.py`. A call of `acquire` counts itself with INCR, and the one that
has created the counter gives it a time to live with EXPIRE. The commands of different calls can
come in between each other. The window of a counter starts with its first call, so calls at the
end of one window and at the start of the next can be more than the budget allows for.
-/

open Collection Concurrency

namespace Sgr

/-- `GridRateLimiter`, without its Redis client. -/
structure GridRateLimiter where
  maxCalls : ℕ := 20
  windowSeconds : ℕ := 10

/-- What the commands of a call return or raise. -/
structure AcquireReplies where
  incr : Except String ℕ
  expire : Except String Unit

/-- The arguments of `acquire`. -/
structure AcquireCall where
  exchange : String
  tenantId : Option String
  category : String

/-- `_key`. -/
def AcquireCall.key (c : AcquireCall) : String :=
  let tenant := (c.tenantId.filter fun tenantId => tenantId ≠ "").getD "default"
  "sgr:grid_rate_limit:" ++ tenant ++ ":" ++ c.exchange ++ ":" ++ c.category

/-- What `acquire` returns; without a Redis client there are no replies. -/
def GridRateLimiter.acquire (l : GridRateLimiter) : Option AcquireReplies → Bool
  | none => true
  | some replies =>
      match replies.incr with
      | .error _ => true
      | .ok count =>
          match if count = 1 then replies.expire else .ok () with
          | .error _ => true
          | .ok () => count ≤ l.maxCalls

/-- The replies of a Redis that works. -/
def AcquireReplies.counted (count : ℕ) : AcquireReplies := ⟨.ok count, .ok ()⟩

@[simp] theorem acquire_counted (l : GridRateLimiter) (count : ℕ) :
    l.acquire (some (.counted count)) = decide (count ≤ l.maxCalls) := by
  simp [GridRateLimiter.acquire, AcquireReplies.counted]

/-! ### The counters in Redis -/

/-- A command of a call at Redis, or the end of a process between its two commands. -/
inductive LimiterCommand
  | incr (reply : RedisReply)
  | expire (reply : RedisReply)
  | died

/-- A command of a call, at a second. -/
structure LimiterEvent where
  call : AcquireCall
  time : ℚ
  command : LimiterCommand

/-- What has become of the calls with one key: its counter, the number of the calls that are about
to send EXPIRE, and when one of them was last under way. The calls on the counter, those on the
one before it and those that are let through are kept with the times of INCR, the last first. -/
structure LimiterKey where
  counter : Option (ExpiringCounter ℚ) := none
  expiring : ℕ := 0
  lastActive : Option ℚ := none
  current : List ℚ := []
  previous : List ℚ := []
  allowed : List ℚ := []

namespace LimiterKey

variable (l : GridRateLimiter) (k : LimiterKey) (now : ℚ)

/-- What INCR returns. -/
def countAt : ℕ := (ExpiringCounter.incr now k.counter).count

/-- The calls of the window at an instant, and those of the window before it. -/
def windowsAt : List ℚ × List ℚ :=
  if (ExpiringCounter.live now k.counter).isSome then (k.current, k.previous)
  else ([], k.current)

/-- A call counts itself. -/
def count : LimiterKey :=
  { k with
    counter := some (ExpiringCounter.incr now k.counter)
    current := now :: (k.windowsAt now).1
    previous := (k.windowsAt now).2 }

/-- INCR, and what the call does with its reply. -/
def incr (reply : RedisReply) : LimiterKey :=
  let counted := if reply.applied then k.count now else k
  match reply with
  | .done =>
      { counted with
        expiring := if k.countAt now = 1 then k.expiring + 1 else k.expiring
        lastActive := some now
        allowed := if l.acquire (some (.counted (k.countAt now))) then now :: k.allowed
          else k.allowed }
  | .raised _ _ => { counted with lastActive := some now, allowed := now :: k.allowed }

/-- EXPIRE of the call that has created the counter. -/
def expire (reply : RedisReply) : LimiterKey :=
  { k with
    counter := if reply.applied then ExpiringCounter.expire now (l.windowSeconds : ℚ) k.counter
      else k.counter
    expiring := k.expiring - 1
    lastActive := some now }

/-- The process of the call that has created the counter is gone. -/
def died : LimiterKey := { k with expiring := k.expiring - 1, lastActive := some now }

/-- The calls with a key after a command. -/
def next : LimiterCommand → Option LimiterKey
  | .incr reply => some (k.incr l now reply)
  | .expire reply => if 0 < k.expiring then some (k.expire l now reply) else none
  | .died => if 0 < k.expiring then some (k.died now) else none

end LimiterKey

/-- The calls with each key, and the time of the last command. -/
structure LimiterState where
  now : ℚ
  calls : String → LimiterKey

/-- There have been no calls. -/
def LimiterState.init (start : ℚ) : LimiterState := ⟨start, fun _ => {}⟩

/-- The calls of any number of processes, one command after the other. -/
def limiterMachine (l : GridRateLimiter) : Machine LimiterState LimiterEvent where
  next s e :=
    if s.now ≤ e.time then
      ((s.calls e.call.key).next l e.time e.command).map fun k =>
        ⟨e.time, Function.update s.calls e.call.key k⟩
    else none

/-- Redis does what is asked, and the process goes on. -/
def LimiterEvent.Works (e : LimiterEvent) : Prop :=
  e.command = .incr .done ∨ e.command = .expire .done

/-! ### The budget of an interval -/

/-- A call that the budget of its window lets through comes too soon after one of the window before
it: from that one on, as many calls are let through as the budget has. -/
def LimiterKey.TooSoon (l : GridRateLimiter) (k : LimiterKey) (now : ℚ) : Prop :=
  (k.windowsAt now).1.length < l.maxCalls ∧
    ∃ x ∈ ((k.windowsAt now).2.rtake l.maxCalls)[l.maxCalls - 1 - (k.windowsAt now).1.length]?,
      now < x + l.windowSeconds

/-- A call comes too soon. -/
def LimiterEvent.TooSoon (l : GridRateLimiter) (s : LimiterState) (e : LimiterEvent) : Prop :=
  e.command = .incr .done ∧ (s.calls e.call.key).TooSoon l e.time

/-- What the calls with a key keep to, when Redis works. -/
structure LimiterKey.KeepsWindows (l : GridRateLimiter) (now : ℚ) (k : LimiterKey) : Prop where
  count_eq : ∀ c ∈ k.counter, c.count = k.current.length
  current_eq_nil : k.counter = none → k.current = []
  expires : ∀ x ∈ k.previous, ∃ c ∈ k.counter, ∀ e ∈ c.expiresAt, x + l.windowSeconds ≤ e
  allowed : ∃ older, k.allowed = k.current.rtake l.maxCalls ++
    (k.previous.rtake l.maxCalls ++ older) ∧ ∀ x ∈ older, x + l.windowSeconds ≤ now
  descends : k.allowed.Pairwise (· ≥ ·)
  le_now : ∀ x ∈ k.current ++ (k.previous ++ k.allowed), x ≤ now

/-- Every key keeps to it. -/
def LimiterState.KeepsWindows (l : GridRateLimiter) (s : LimiterState) : Prop :=
  ∀ key, (s.calls key).KeepsWindows l s.now

section Windows

variable {l : GridRateLimiter} {k k' : LimiterKey} {now time : ℚ} {s t : LimiterState}
  {e : LimiterEvent}

/-- The calls that are let through after a call that Redis has counted. -/
theorem LimiterKey.allowed_incr_done : (k.incr l now .done).allowed =
    if k.countAt now ≤ l.maxCalls then now :: k.allowed else k.allowed := by
  simp only [LimiterKey.incr, acquire_counted, decide_eq_true_eq]

theorem LimiterKey.KeepsWindows.init (l : GridRateLimiter) (now : ℚ) :
    LimiterKey.KeepsWindows l now {} where
  count_eq c hc := by cases hc
  current_eq_nil _ := rfl
  expires x hx := by cases hx
  allowed := ⟨[], by simp, by simp⟩
  descends := .nil
  le_now x hx := by cases hx

/-- As time goes on. -/
theorem LimiterKey.KeepsWindows.mono (h : k.KeepsWindows l now) (hle : now ≤ time) :
    k.KeepsWindows l time where
  count_eq := h.count_eq
  current_eq_nil := h.current_eq_nil
  expires := h.expires
  allowed := by
    obtain ⟨older, hallowed, holder⟩ := h.allowed
    exact ⟨older, hallowed, fun x hx => (holder x hx).trans hle⟩
  descends := h.descends
  le_now x hx := (h.le_now x hx).trans hle

/-- The next call is counted after those of the window. -/
theorem LimiterKey.KeepsWindows.countAt_eq (h : k.KeepsWindows l now) :
    k.countAt time = (k.windowsAt time).1.length + 1 := by
  rw [countAt, windowsAt]
  cases hlive : ExpiringCounter.live time k.counter with
  | none => rw [ExpiringCounter.incr_of_live_none hlive]; rfl
  | some c =>
      rw [ExpiringCounter.incr_of_live_some hlive]
      exact congrArg (· + 1) (h.count_eq c (ExpiringCounter.eq_some_of_live hlive))

/-- The calls that are let through, split at the windows of an instant. -/
theorem LimiterKey.KeepsWindows.allowed_eq (h : k.KeepsWindows l now) (hle : now ≤ time) :
    ∃ older, k.allowed = (k.windowsAt time).1.rtake l.maxCalls ++
      ((k.windowsAt time).2.rtake l.maxCalls ++ older) ∧
        ∀ x ∈ older, x + l.windowSeconds ≤ time := by
  obtain ⟨older, hallowed, holder⟩ := h.allowed
  rw [windowsAt]
  split
  next => exact ⟨older, hallowed, fun x hx => (holder x hx).trans hle⟩
  next hgone =>
    refine ⟨k.previous.rtake l.maxCalls ++ older, by simpa using hallowed, fun x hx => ?_⟩
    rcases List.mem_append.1 hx with hx | hx
    · -- the window before the one that is over
      obtain ⟨c, hc, hexpires⟩ := h.expires x (mem_of_mem_rtake hx)
      rw [Option.not_isSome_iff_eq_none, Option.mem_def.1 hc,
        ExpiringCounter.live_eq_none_iff] at hgone
      obtain ⟨expiry, hexpiry, hover⟩ := hgone
      exact (hexpires expiry hexpiry).trans hover
    · exact (holder x hx).trans hle

theorem LimiterKey.KeepsWindows.le_of_mem_windowsAt (h : k.KeepsWindows l now) {x : ℚ}
    (hx : x ∈ (k.windowsAt time).1 ++ (k.windowsAt time).2) : x ≤ now := by
  refine h.le_now x ?_
  rw [windowsAt] at hx
  split at hx
  next =>
    rw [← List.append_assoc]
    exact List.mem_append_left _ hx
  next => exact List.mem_append_left _ (by simpa using hx)

/-- A counter that is created does not expire before its window has lasted. -/
theorem LimiterKey.KeepsWindows.expires_incr (h : k.KeepsWindows l now) :
    ∀ x ∈ (k.windowsAt time).2, ∀ e ∈ (ExpiringCounter.incr time k.counter).expiresAt,
      x + l.windowSeconds ≤ e := by
  intro x hx e he
  rw [windowsAt] at hx
  cases hlive : ExpiringCounter.live time k.counter with
  | none =>
      rw [ExpiringCounter.incr_of_live_none hlive] at he
      cases he
  | some c =>
      rw [ExpiringCounter.incr_of_live_some hlive] at he
      rw [hlive] at hx
      obtain ⟨c', hc', hexpires⟩ := h.expires x hx
      rw [ExpiringCounter.eq_some_of_live hlive] at hc'
      cases hc'
      exact hexpires e he

theorem LimiterKey.KeepsWindows.le_of_mem_allowed_incr (h : k.KeepsWindows l now)
    (hle : now ≤ time) {x : ℚ} (hx : x ∈ (k.incr l time .done).allowed) : x ≤ time := by
  rw [allowed_incr_done] at hx
  split at hx
  next =>
    rcases List.mem_cons.1 hx with rfl | hx
    · exact le_rfl
    · exact (h.le_now x (by simp [hx])).trans hle
  next => exact (h.le_now x (by simp [hx])).trans hle

/-- INCR keeps the windows. -/
theorem LimiterKey.KeepsWindows.incr (h : k.KeepsWindows l now) (hle : now ≤ time) :
    (k.incr l time .done).KeepsWindows l time where
  count_eq c hc := by
    cases hc
    exact h.countAt_eq
  current_eq_nil hnone := by cases hnone
  expires x hx := ⟨_, rfl, h.expires_incr x hx⟩
  allowed := by
    obtain ⟨older, hallowed, holder⟩ := h.allowed_eq hle
    refine ⟨older, ?_, holder⟩
    change _ = (time :: (k.windowsAt time).1).rtake l.maxCalls ++
      ((k.windowsAt time).2.rtake l.maxCalls ++ older)
    rw [allowed_incr_done, h.countAt_eq, rtake_cons, hallowed]
    by_cases hlt : (k.windowsAt time).1.length < l.maxCalls
    · rw [if_pos (Nat.succ_le_of_lt hlt), if_pos hlt, rtake_of_length_le hlt.le, List.cons_append]
    · rw [if_neg (fun hle => hlt (Nat.lt_of_succ_le hle)), if_neg hlt]
  descends := by
    rw [allowed_incr_done]
    split
    next =>
      exact List.pairwise_cons.2
        ⟨fun x hx => (h.le_now x (by simp [hx])).trans hle, h.descends⟩
    next => exact h.descends
  le_now x hx := by
    rcases List.mem_append.1 hx with hx | hx
    · rcases List.mem_cons.1 hx with rfl | hx
      · exact le_rfl
      · exact (h.le_of_mem_windowsAt (List.mem_append_left _ hx)).trans hle
    · rcases List.mem_append.1 hx with hx | hx
      · exact (h.le_of_mem_windowsAt (List.mem_append_right _ hx)).trans hle
      · exact h.le_of_mem_allowed_incr hle hx

/-- EXPIRE keeps the windows. -/
theorem LimiterKey.KeepsWindows.expire (h : k.KeepsWindows l now) (hle : now ≤ time) :
    (k.expire l time .done).KeepsWindows l time := by
  have hmono := h.mono hle
  have hcounter : (k.expire l time .done).counter =
      ExpiringCounter.expire time (l.windowSeconds : ℚ) k.counter := rfl
  cases hlive : ExpiringCounter.live time k.counter with
  | none =>
      rw [ExpiringCounter.expire_of_live_none hlive] at hcounter
      exact { hmono with
        count_eq := hcounter.symm ▸ h.count_eq
        current_eq_nil := hcounter.symm ▸ h.current_eq_nil
        expires := hcounter.symm ▸ h.expires }
  | some c =>
      rw [ExpiringCounter.expire_of_live_some hlive] at hcounter
      refine { hmono with
        count_eq := fun c' hc' => ?_
        current_eq_nil := fun hnone => ?_
        expires := fun x hx => ⟨_, hcounter, fun expiry hexpiry => ?_⟩ }
      · rw [hcounter] at hc'
        cases hc'
        exact h.count_eq c (ExpiringCounter.eq_some_of_live hlive)
      · rw [hcounter] at hnone
        cases hnone
      · cases hexpiry
        exact add_le_add_left (hmono.le_now x
          (List.mem_append_right _ (List.mem_append_left _ hx))) _

/-- The calls with a key keep their windows while Redis works. -/
theorem LimiterKey.KeepsWindows.next {command : LimiterCommand} (h : k.KeepsWindows l now)
    (hle : now ≤ time) (hworks : command = .incr .done ∨ command = .expire .done)
    (hnext : k.next l time command = some k') : k'.KeepsWindows l time := by
  rcases hworks with rfl | rfl
  · cases hnext
    exact h.incr hle
  · obtain ⟨-, hnext⟩ := Option.ite_none_right_eq_some.1 hnext
    cases hnext
    exact h.expire hle

/-- A call keeps the budget of every interval exactly if it does not come too soon. -/
theorem LimiterKey.KeepsWindows.atMostIn_incr_iff (h : k.KeepsWindows l now) (hle : now ≤ time) :
    AtMostIn l.maxCalls (l.windowSeconds : ℚ) (k.incr l time .done).allowed ↔
      AtMostIn l.maxCalls (l.windowSeconds : ℚ) k.allowed ∧ ¬ k.TooSoon l time := by
  obtain ⟨older, hallowed, holder⟩ := h.allowed_eq hle
  have hdesc := (h.incr hle).descends
  rw [allowed_incr_done, h.countAt_eq] at hdesc ⊢
  by_cases hlt : (k.windowsAt time).1.length < l.maxCalls
  · rw [if_pos (Nat.succ_le_of_lt hlt), hallowed, rtake_of_length_le hlt.le] at hdesc
    rw [if_pos (Nat.succ_le_of_lt hlt), hallowed, rtake_of_length_le hlt.le,
      atMostIn_cons_append_iff hdesc hlt holder]
    simp [LimiterKey.TooSoon, hlt]
  · rw [if_neg (fun hle => hlt (Nat.lt_of_succ_le hle))]
    simp [LimiterKey.TooSoon, hlt]

/-- What an event does. -/
theorem limiterMachine_next_eq_some_iff : (limiterMachine l).next s e = some t ↔
    s.now ≤ e.time ∧ ∃ k, (s.calls e.call.key).next l e.time e.command = some k ∧
      t = ⟨e.time, Function.update s.calls e.call.key k⟩ := by
  rw [limiterMachine, Option.ite_none_right_eq_some, Option.map_eq_some_iff]
  simp only [eq_comm]

theorem LimiterState.KeepsWindows.next (h : s.KeepsWindows l) (hworks : e.Works)
    (hnext : (limiterMachine l).next s e = some t) : t.KeepsWindows l := by
  obtain ⟨hle, k, hk, rfl⟩ := limiterMachine_next_eq_some_iff.1 hnext
  intro key
  by_cases hkey : key = e.call.key
  · subst hkey
    change (Function.update s.calls e.call.key k e.call.key).KeepsWindows l e.time
    rw [Function.update_self]
    exact (h e.call.key).next hle hworks hk
  · change (Function.update s.calls e.call.key k key).KeepsWindows l e.time
    rw [Function.update_of_ne hkey]
    exact (h key).mono hle

/-- The budget of every interval is kept for every key. -/
def LimiterState.AtMostIn (l : GridRateLimiter) (s : LimiterState) : Prop :=
  ∀ key, Collection.AtMostIn l.maxCalls (l.windowSeconds : ℚ) (s.calls key).allowed

theorem LimiterState.KeepsWindows.atMostIn_next_iff (h : s.KeepsWindows l) (hworks : e.Works)
    (hnext : (limiterMachine l).next s e = some t) :
    t.AtMostIn l ↔ s.AtMostIn l ∧ ¬ e.TooSoon l s := by
  obtain ⟨hle, k, hk, rfl⟩ := limiterMachine_next_eq_some_iff.1 hnext
  have hstep : Collection.AtMostIn l.maxCalls (l.windowSeconds : ℚ) k.allowed ↔
      Collection.AtMostIn l.maxCalls (l.windowSeconds : ℚ) (s.calls e.call.key).allowed ∧
        ¬ e.TooSoon l s := by
    rw [LimiterEvent.TooSoon]
    rcases hworks with hcommand | hcommand
    · rw [hcommand] at hk
      cases hk
      rw [(h e.call.key).atMostIn_incr_iff hle, and_iff_right hcommand]
    · rw [hcommand] at hk
      obtain ⟨-, hk⟩ := Option.ite_none_right_eq_some.1 hk
      cases hk
      rw [hcommand]
      simp [LimiterKey.expire]
  have hothers : (∀ key, Collection.AtMostIn l.maxCalls (l.windowSeconds : ℚ)
        (s.calls key).allowed) ↔
      Collection.AtMostIn l.maxCalls (l.windowSeconds : ℚ) (s.calls e.call.key).allowed ∧
        ∀ key ≠ e.call.key,
          Collection.AtMostIn l.maxCalls (l.windowSeconds : ℚ) (s.calls key).allowed := by
    constructor
    · exact fun h => ⟨h _, fun key _ => h key⟩
    · rintro ⟨hown, hothers⟩ key
      by_cases hkey : key = e.call.key
      · rw [hkey]
        exact hown
      · exact hothers key hkey
  rw [LimiterState.AtMostIn, LimiterState.AtMostIn, hothers,
    Function.forall_update_iff s.calls (p := fun _ k => Collection.AtMostIn l.maxCalls
      (l.windowSeconds : ℚ) k.allowed), hstep, and_right_comm]

theorem LimiterState.keepsWindows_init (l : GridRateLimiter) (start : ℚ) :
    (LimiterState.init start).KeepsWindows l := fun _ => .init l start

theorem LimiterState.atMostIn_init (l : GridRateLimiter) (start : ℚ) :
    (LimiterState.init start).AtMostIn l := fun _ => atMostIn_nil

/-- While Redis works, no interval of the length of a window has more calls of a key that are let
through than the budget, exactly if no call comes too soon. -/
theorem atMostIn_iff_guarded (l : GridRateLimiter) (start : ℚ) {events : List LimiterEvent}
    (hworks : ∀ e ∈ events, e.Works)
    (hrun : (limiterMachine l).run (.init start) events = some s) :
    s.AtMostIn l ↔
      (limiterMachine l).Guarded (fun s e => ¬ e.TooSoon l s) (.init start) events := by
  rw [(limiterMachine l).guarded_run_iff_guarded
    (fun s e t hs hworks hnext => hs.next hworks hnext)
    (fun s e t hs hworks hnext => hs.atMostIn_next_iff hworks hnext)
    (LimiterState.keepsWindows_init l start)
    ((limiterMachine l).guarded_of_forall_mem (fun e he _ => hworks e he) _) hrun]
  exact and_iff_right (LimiterState.atMostIn_init l start)

end Windows

/-- The calls of a grid that are about orders. -/
def AcquireCall.orders : AcquireCall := ⟨"binance", some "gordon", "order_submit"⟩

/-- A command of such a call, at a second, that Redis executes. -/
def LimiterEvent.incrAt (second : ℚ) : LimiterEvent := ⟨.orders, second, .incr .done⟩

/-- The same for EXPIRE. -/
def LimiterEvent.expireAt (second : ℚ) : LimiterEvent := ⟨.orders, second, .expire .done⟩

/-- A call in each of two windows. -/
theorem atMostIn_iff_guarded_twoWindows :
    ∃ s, (limiterMachine {}).run (.init 0) [.incrAt 0, .expireAt 0, .incrAt 12] = some s ∧
      (s.AtMostIn {} ↔ (limiterMachine {}).Guarded (fun s e => ¬ e.TooSoon {} s) (.init 0)
        [.incrAt 0, .expireAt 0, .incrAt 12]) :=
  ⟨_, rfl, atMostIn_iff_guarded {} 0 (by simp [LimiterEvent.Works, LimiterEvent.incrAt,
    LimiterEvent.expireAt]) rfl⟩

/-- One call opens a window, nineteen follow at its end, and twenty at the start of the next. -/
def LimiterEvent.burst : List LimiterEvent :=
  .incrAt 0 :: .expireAt 0 :: List.replicate 19 (.incrAt 9) ++
    .incrAt 10 :: .expireAt 10 :: List.replicate 19 (.incrAt 10)

/-- Within ten seconds, 39 calls are let through. -/
theorem not_atMostIn :
    ¬ ∀ (l : GridRateLimiter) (start : ℚ) (events : List LimiterEvent) (s : LimiterState),
      (∀ e ∈ events, e.Works) → (limiterMachine l).run (.init start) events = some s →
        s.AtMostIn l := by
  intro h
  have hworks : ∀ e ∈ LimiterEvent.burst, e.Works := by
    simp [LimiterEvent.burst, LimiterEvent.Works, LimiterEvent.incrAt, LimiterEvent.expireAt]
  have hcount : ((limiterMachine {}).run (.init 0) LimiterEvent.burst).map
      (fun s => (s.calls AcquireCall.orders.key).allowed.countP fun t => 9 ≤ t ∧ t < 9 + 10) =
        some 39 := by
    decide +kernel
  obtain ⟨s, hrun, hcount⟩ := Option.map_eq_some_iff.1 hcount
  have hle := h {} 0 LimiterEvent.burst s hworks hrun AcquireCall.orders.key 9
  change (s.calls AcquireCall.orders.key).allowed.countP (fun t => 9 ≤ t ∧ t < 9 + 10) ≤ 20 at hle
  omega

end Sgr
