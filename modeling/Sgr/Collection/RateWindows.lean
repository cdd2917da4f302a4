import Mathlib.Algebra.Order.Group.Defs
import Mathlib.Data.List.Basic

/-!
# Counters that expire and the times in a window

A counter is incremented, which creates it, and is given a time to live, after which it is gone.
`AtMostIn n length times` bounds how many of some times lie in an interval of a length, wherever
it starts. Of times that are listed from the last to the first, it is enough to compare each with
the one `n` places before it.
-/

namespace Collection

/-! ### Counters -/

/-- A counter, and from when on it is gone, if it expires. -/
structure ExpiringCounter (T : Type*) where
  count : ℕ
  expiresAt : Option T

namespace ExpiringCounter

variable {T : Type*} [LinearOrder T] {now : T} {c : ExpiringCounter T}

/-- What there is of a counter at an instant. -/
def live (now : T) (counter : Option (ExpiringCounter T)) : Option (ExpiringCounter T) :=
  counter.filter fun c => ∀ e ∈ c.expiresAt, now < e

/-- A counter that does not exist is created with one, and does not expire. -/
def incr (now : T) (counter : Option (ExpiringCounter T)) : ExpiringCounter T :=
  match live now counter with
  | none => ⟨1, none⟩
  | some c => ⟨c.count + 1, c.expiresAt⟩

/-- A counter that exists is given a time to live. -/
def expire [Add T] (now ttl : T) (counter : Option (ExpiringCounter T)) :
    Option (ExpiringCounter T) :=
  match live now counter with
  | none => counter
  | some c => some ⟨c.count, some (now + ttl)⟩

theorem live_some : live now (some c) = if ∀ e ∈ c.expiresAt, now < e then some c else none := by
  simp [live, Option.filter]

theorem eq_some_of_live {counter : Option (ExpiringCounter T)} (h : live now counter = some c) :
    counter = some c :=
  (Option.filter_eq_some_iff.1 h).1

/-- A counter that does not expire is there at every instant. -/
@[simp] theorem live_some_of_none {count : ℕ} :
    live now (some ⟨count, none⟩) = some ⟨count, none⟩ := by
  simp [live_some]

theorem live_eq_none_iff : live now (some c) = none ↔ ∃ e ∈ c.expiresAt, e ≤ now := by
  rw [live_some]
  simp

theorem incr_of_live_none {counter : Option (ExpiringCounter T)} (h : live now counter = none) :
    incr now counter = ⟨1, none⟩ := by
  rw [incr, h]

theorem incr_of_live_some {counter : Option (ExpiringCounter T)} (h : live now counter = some c) :
    incr now counter = ⟨c.count + 1, c.expiresAt⟩ := by
  rw [incr, h]

theorem count_incr_pos (now : T) (counter : Option (ExpiringCounter T)) :
    0 < (incr now counter).count := by
  unfold incr
  split
  next => exact Nat.one_pos
  next => exact Nat.succ_pos _

theorem expire_of_live_none [Add T] {ttl : T} {counter : Option (ExpiringCounter T)}
    (h : live now counter = none) : expire now ttl counter = counter := by
  rw [expire, h]

theorem expire_of_live_some [Add T] {ttl : T} {counter : Option (ExpiringCounter T)}
    (h : live now counter = some c) :
    expire now ttl counter = some ⟨c.count, some (now + ttl)⟩ := by
  rw [expire, h]

end ExpiringCounter

/-! ### Times in a window -/

/-- A time stands before those that are not later. -/
theorem getElem_le_getElem {T : Type*} [LinearOrder T] {times : List T}
    (hdesc : times.Pairwise (· ≥ ·)) {i j : ℕ} (hij : i ≤ j) (hj : j < times.length) :
    times[j] ≤ times[i] := by
  rcases hij.lt_or_eq with hlt | rfl
  · exact List.pairwise_iff_getElem.1 hdesc i j _ hj hlt
  · exact le_rfl

section AtMostIn

variable {T : Type*} [AddCommGroup T] [LinearOrder T]

/-- At most `n` of the times lie in an interval of the length, wherever it starts. -/
def AtMostIn (n : ℕ) (length : T) (times : List T) : Prop :=
  ∀ start, times.countP (fun t => start ≤ t ∧ t < start + length) ≤ n

variable {n : ℕ} {length t : T} {times : List T}

theorem atMostIn_nil : AtMostIn n length [] := fun _ => Nat.zero_le n

theorem AtMostIn.tail (h : AtMostIn n length (t :: times)) : AtMostIn n length times :=
  fun start => ((List.sublist_cons_self t times).countP_le).trans (h start)

/-- The times up to a place are in an interval that starts with the time at this place, if the
first of them is. -/
theorem lt_countP_of_lt (hdesc : (t :: times).Pairwise (· ≥ ·)) (hn : n < (t :: times).length)
    (hlt : t < (t :: times)[n] + length) : n < (t :: times).countP
      fun y => (t :: times)[n] ≤ y ∧ y < (t :: times)[n] + length := by
  have hall : ∀ y ∈ (t :: times).take (n + 1), (t :: times)[n] ≤ y ∧
      y < (t :: times)[n] + length := by
    intro y hy
    obtain ⟨i, hi, rfl⟩ := List.mem_take_iff_getElem.1 hy
    have hfirst : (t :: times)[i] ≤ t := getElem_le_getElem hdesc (Nat.zero_le i) (by omega)
    exact ⟨getElem_le_getElem hdesc (by omega) hn, hfirst.trans_lt hlt⟩
  have htake : ((t :: times).take (n + 1)).countP
      (fun y => (t :: times)[n] ≤ y ∧ y < (t :: times)[n] + length) = n + 1 := by
    rw [List.countP_eq_length.2 (by simpa using hall), List.length_take]
    omega
  rw [← Nat.succ_le_iff, Nat.succ_eq_add_one, ← htake]
  exact (List.take_sublist (n + 1) (t :: times)).countP_le

/-- Only the first `n` times are in an interval that starts after the time at the place `n`. -/
theorem countP_le_of_lt {start : T} (hdesc : times.Pairwise (· ≥ ·))
    (hearly : ∀ x ∈ times[n]?, x < start) :
    times.countP (fun y => start ≤ y ∧ y < start + length) ≤ n := by
  have hdrop : (times.drop n).countP (fun y => start ≤ y ∧ y < start + length) = 0 := by
    refine List.countP_eq_zero.2 fun y hy => ?_
    obtain ⟨i, hi, rfl⟩ := List.mem_drop_iff_getElem.1 hy
    have hn : n < times.length := by omega
    have hlt : times[n] < start := hearly _ (List.getElem?_eq_getElem hn)
    have hle : times[n + i] ≤ times[n] := getElem_le_getElem hdesc (by omega) (by omega)
    simp [(hle.trans_lt hlt).not_ge]
  rw [← List.take_append_drop n times, List.countP_append, hdrop]
  exact List.countP_le_length.trans (List.length_take_le n _)

/-- A time is added after the others: it has to come late enough after the one `n` places before
it. -/
theorem atMostIn_cons_iff [IsOrderedAddMonoid T] (hdesc : (t :: times).Pairwise (· ≥ ·)) :
    AtMostIn n length (t :: times) ↔
      AtMostIn n length times ∧ ∀ x ∈ (t :: times)[n]?, x + length ≤ t := by
  constructor
  · refine fun h => ⟨h.tail, fun x hx => not_lt.1 fun hlt => ?_⟩
    obtain ⟨hn, rfl⟩ := List.getElem?_eq_some_iff.1 hx
    exact (lt_countP_of_lt hdesc hn hlt).not_ge (h _)
  · rintro ⟨htimes, hlate⟩ start
    by_cases hin : start ≤ t ∧ t < start + length
    · exact countP_le_of_lt hdesc fun x hx =>
        lt_of_add_lt_add_right ((hlate x hx).trans_lt hin.2)
    · rw [List.countP_cons_of_neg (by simpa using hin)]
      exact htimes start

/-- The times are in three parts, and those of the last part are too early to count: only one of
the second part has to be looked at. -/
theorem atMostIn_cons_append_iff [IsOrderedAddMonoid T] {current previous older : List T}
    (hdesc : (t :: (current ++ (previous ++ older))).Pairwise (· ≥ ·))
    (hcurrent : current.length < n) (holder : ∀ x ∈ older, x + length ≤ t) :
    AtMostIn n length (t :: (current ++ (previous ++ older))) ↔
      AtMostIn n length (current ++ (previous ++ older)) ∧
        ∀ x ∈ previous[n - 1 - current.length]?, x + length ≤ t := by
  rw [atMostIn_cons_iff hdesc]
  refine and_congr_right fun _ => ?_
  obtain ⟨n, rfl⟩ : ∃ k, n = k + 1 := ⟨n - 1, by omega⟩
  rw [List.getElem?_cons_succ, List.getElem?_append_right (by omega), Nat.add_sub_cancel]
  rcases Nat.lt_or_ge (n - current.length) previous.length with hlt | hge
  · rw [List.getElem?_append_left hlt]
  · rw [List.getElem?_append_right hge, List.getElem?_eq_none hge]
    refine iff_of_true (fun x hx => holder x (List.mem_of_getElem? hx)) fun x hx => ?_
    cases hx

end AtMostIn

end Collection
