import Mathlib.Data.List.Chain
import Mathlib.Data.List.DropRight
import Mathlib.Data.List.Sort
import Sgr.Collection.Dict

/-!
# Series of timed rows

The rows of a series come in the order of their times. A dictionary keyed by the time keeps of
the rows with one time the last, in the place of the first, so over sorted rows it is a series
without repetitions.
-/

namespace Collection

variable {α τ : Type*} [LinearOrder τ]

/-- The times never go back. -/
def Ascends (time : α → τ) (rows : List α) : Prop := rows.Pairwise fun x y => time x ≤ time y

/-- Each row is later than those before it. -/
def StrictlyAscends (time : α → τ) (rows : List α) : Prop :=
  rows.Pairwise fun x y => time x < time y

/-- The rows in the order of their times. -/
def byTime (time : α → τ) (rows : List α) : List α :=
  rows.insertionSort fun x y => time x ≤ time y

/-- The dictionary of the rows by their times. -/
def timeDict (time : α → τ) (rows : List α) : Dict τ α :=
  rows.foldl (fun d x => d.set (time x) x) Dict.empty

/-- Of the rows with one time the last one, in the place of the first. -/
def latestByTime (time : α → τ) (rows : List α) : List α := (timeDict time rows).values

instance decidableAscends (time : α → τ) (rows : List α) : Decidable (Ascends time rows) :=
  inferInstanceAs (Decidable (rows.Pairwise fun x y => time x ≤ time y))

instance decidableStrictlyAscends (time : α → τ) (rows : List α) :
    Decidable (StrictlyAscends time rows) :=
  inferInstanceAs (Decidable (rows.Pairwise fun x y => time x < time y))

variable {time : α → τ} {rows new : List α}

theorem strictlyAscends_iff :
    StrictlyAscends time rows ↔ Ascends time rows ∧ (rows.map time).Nodup := by
  rw [Ascends, List.Nodup, List.pairwise_map, ← List.pairwise_and_iff]
  exact List.Pairwise.iff fun x y => lt_iff_le_and_ne

theorem StrictlyAscends.ascends (h : StrictlyAscends time rows) : Ascends time rows :=
  (strictlyAscends_iff.1 h).1

theorem ascends_byTime (rows : List α) : Ascends time (byTime time rows) :=
  List.pairwise_insertionSort _ rows

theorem mem_byTime {x : α} : x ∈ byTime time rows ↔ x ∈ rows := List.mem_insertionSort _

theorem byTime_perm (rows : List α) : (byTime time rows).Perm rows :=
  List.perm_insertionSort _ rows

/-! ### The dictionary by times -/

theorem find_timeDict (rows : List α) (t : τ) :
    (timeDict time rows).get? t = rows.reverse.find? fun x => time x = t :=
  (Dict.get?_foldl_set_key time rows Dict.empty t).trans Option.or_none

theorem mem_entries_timeDict {t : τ} {x : α} (h : (t, x) ∈ (timeDict time rows).entries) :
    x ∈ rows ∧ t = time x := by
  rw [Dict.mem_entries_iff, find_timeDict] at h
  have htime : time x = t := by simpa only [decide_eq_true_eq] using List.find?_some h
  exact ⟨List.mem_reverse.1 (List.mem_of_find?_eq_some h), htime.symm⟩

theorem map_latestByTime (rows : List α) :
    (latestByTime time rows).map time = (timeDict time rows).entries.map Prod.fst := by
  rw [latestByTime, Dict.values, List.map_map]
  exact List.map_congr_left fun e he => (mem_entries_timeDict he).2.symm

theorem nodup_latestByTime (rows : List α) : ((latestByTime time rows).map time).Nodup := by
  rw [map_latestByTime]
  exact (timeDict time rows).nodup_keys

theorem mem_of_mem_latestByTime {x : α} (h : x ∈ latestByTime time rows) : x ∈ rows := by
  obtain ⟨e, he, rfl⟩ := List.mem_map.1 h
  exact (mem_entries_timeDict he).1

/-- No time is lost. -/
theorem exists_mem_latestByTime {x : α} (h : x ∈ rows) :
    ∃ y ∈ latestByTime time rows, time y = time x := by
  have hkey : time x ∈ (timeDict time rows).entries.map Prod.fst := by
    by_contra hkey
    have hnone := Dict.find_eq_none_iff.2 hkey
    change (timeDict time rows).get? (time x) = none at hnone
    rw [find_timeDict, List.find?_eq_none] at hnone
    exact hnone x (List.mem_reverse.2 h) (decide_eq_true rfl)
  rw [← map_latestByTime] at hkey
  exact List.mem_map.1 hkey

/-- What holds of all times holds of all times that are kept. -/
theorem forall_latestByTime_iff {p : τ → Prop} :
    (∀ x ∈ latestByTime time rows, p (time x)) ↔ ∀ x ∈ rows, p (time x) := by
  constructor
  · intro h x hx
    obtain ⟨y, hy, hyx⟩ : ∃ y ∈ latestByTime time rows, time y = time x :=
      exists_mem_latestByTime hx
    rw [← hyx]
    exact h y hy
  · exact fun h x hx => h x (mem_of_mem_latestByTime hx)

/-- The dictionary of a series has its times in their order. -/
theorem pairwise_keys_foldl {d : Dict τ α} (hrows : Ascends time rows)
    (hd : (d.entries.map Prod.fst).Pairwise (· ≤ ·))
    (hle : ∀ t ∈ d.entries.map Prod.fst, ∀ x ∈ rows, t ≤ time x) :
    ((rows.foldl (fun d x => d.set (time x) x) d).entries.map Prod.fst).Pairwise (· ≤ ·) := by
  induction rows generalizing d with
  | nil => exact hd
  | cons x rows ih =>
      obtain ⟨hx, hrows⟩ := List.pairwise_cons.1 hrows
      have hkeys : ∀ t ∈ (d.set (time x) x).entries.map Prod.fst,
          t = time x ∨ t ∈ d.entries.map Prod.fst := fun t ht => Dict.mem_keys_assign.1 ht
      refine ih hrows ?_ fun t ht y hy => ?_
      · change ((Dict.assign (time x) x d.entries).map Prod.fst).Pairwise (· ≤ ·)
        rw [Dict.keys_assign]
        split
        next => exact hd
        next =>
          refine List.pairwise_append.2 ⟨hd, List.pairwise_singleton _ _, fun t ht u hu => ?_⟩
          rw [List.mem_singleton.1 hu]
          exact hle t ht x List.mem_cons_self
      · rcases hkeys t ht with rfl | ht
        · exact hx y hy
        · exact hle t ht y (List.mem_cons_of_mem x hy)

/-- Over a series the kept rows are a series without repetitions. -/
theorem Ascends.strictlyAscends_latestByTime (h : Ascends time rows) :
    StrictlyAscends time (latestByTime time rows) := by
  refine strictlyAscends_iff.2 ⟨?_, nodup_latestByTime rows⟩
  rw [Ascends, ← List.pairwise_map (R := (· ≤ ·)), map_latestByTime]
  exact pairwise_keys_foldl h .nil (by simp [Dict.empty])

/-- Sorting what is kept gives such a series too. -/
theorem strictlyAscends_byTime_latestByTime (rows : List α) :
    StrictlyAscends time (byTime time (latestByTime time rows)) :=
  strictlyAscends_iff.2 ⟨ascends_byTime _,
    ((byTime_perm _).map time).nodup_iff.2 (nodup_latestByTime rows)⟩

/-- Rows of one time are one row. -/
theorem StrictlyAscends.eq_of_time_eq (h : StrictlyAscends time rows) {x y : α} (hx : x ∈ rows)
    (hy : y ∈ rows) (hxy : time x = time y) : x = y :=
  List.inj_on_of_nodup_map (strictlyAscends_iff.1 h).2 hx hy hxy

/-- Series with the same rows are one series. -/
theorem StrictlyAscends.eq_of_mem_iff (h : StrictlyAscends time rows)
    (hnew : StrictlyAscends time new) (hmem : ∀ x, x ∈ rows ↔ x ∈ new) : rows = new := by
  have hperm : rows.Perm new := (List.perm_ext_iff_of_nodup (h.imp fun hlt heq => by
    rw [heq] at hlt
    exact lt_irrefl _ hlt) (hnew.imp fun hlt heq => by
    rw [heq] at hlt
    exact lt_irrefl _ hlt)).2 hmem
  exact hperm.eq_of_pairwise (fun x y _ _ hxy hyx => absurd hxy hyx.not_gt) h hnew

/-- Rows of a series that are sorted by their times without repetitions are kept. -/
theorem mem_byTime_latestByTime (h : StrictlyAscends time new) (hrows : ∀ x ∈ rows, x ∈ new)
    {x : α} : x ∈ byTime time (latestByTime time rows) ↔ x ∈ rows := by
  rw [mem_byTime]
  refine ⟨mem_of_mem_latestByTime, fun hx => ?_⟩
  obtain ⟨y, hy, htime⟩ : ∃ y ∈ latestByTime time rows, time y = time x :=
    exists_mem_latestByTime hx
  rwa [← h.eq_of_time_eq (hrows y (mem_of_mem_latestByTime hy)) (hrows x hx) htime]

/-! ### The end of a series -/

theorem Ascends.rtake (h : Ascends time rows) (n : ℕ) : Ascends time (rows.rtake n) :=
  List.Pairwise.drop h

theorem StrictlyAscends.rtake (h : StrictlyAscends time rows) (n : ℕ) :
    StrictlyAscends time (rows.rtake n) :=
  List.Pairwise.drop h

theorem mem_of_mem_rtake {n : ℕ} {x : α} (h : x ∈ rows.rtake n) : x ∈ rows :=
  List.mem_of_mem_drop h

/-- A list with one more element, of which the last `n` are taken. -/
theorem rtake_cons (x : α) (rows : List α) (n : ℕ) :
    (x :: rows).rtake n = if rows.length < n then x :: rows else rows.rtake n := by
  split
  next hlt => rw [List.rtake, List.length_cons, Nat.sub_eq_zero_of_le hlt, List.drop_zero]
  next hge =>
    rw [List.rtake, List.rtake, List.length_cons, Nat.succ_sub (not_lt.1 hge),
      List.drop_succ_cons]

theorem rtake_of_length_le {n : ℕ} (h : rows.length ≤ n) : rows.rtake n = rows := by
  rw [List.rtake, Nat.sub_eq_zero_of_le h, List.drop_zero]

theorem rtake_append (rows new : List α) (n : ℕ) :
    (rows ++ new).rtake n = rows.rtake (n - new.length) ++ new.rtake n := by
  rw [List.rtake, List.rtake, List.rtake, List.drop_append, List.length_append]
  congr 1
  · rcases le_total n new.length with hle | hle
    · rw [List.drop_eq_nil_of_le (by omega), List.drop_eq_nil_of_le (by omega)]
    · congr 1
      omega
  · congr 1
    omega

theorem getLast?_rtake {n : ℕ} (hn : 0 < n) : (rows.rtake n).getLast? = rows.getLast? := by
  rw [List.rtake, List.getLast?_drop]
  split
  next hle =>
    have hnil : rows = [] := by
      rw [← List.length_eq_zero_iff]
      omega
    rw [hnil, List.getLast?_nil]
  next => rfl

/-- No row is later than the last one. -/
theorem Ascends.le_of_getLast? (h : Ascends time rows) {x last : α} (hx : x ∈ rows)
    (hlast : rows.getLast? = some last) : time x ≤ time last := by
  obtain ⟨before, rfl⟩ := List.getLast?_eq_some_iff.1 hlast
  rcases List.mem_append.1 hx with hx | hx
  · exact (List.pairwise_append.1 h).2.2 x hx last List.mem_cons_self
  · rw [List.mem_singleton.1 hx]

/-- The end of a series that is continued by other rows is a series exactly if the end of these
rows is, and, as long as they leave room for any other, they are later than the series. -/
theorem StrictlyAscends.rtake_append_iff (h : StrictlyAscends time rows) (n : ℕ) :
    StrictlyAscends time ((rows ++ new).rtake n) ↔
      StrictlyAscends time (new.rtake n) ∧
        (new.length < n → ∀ x ∈ rows, ∀ y ∈ new, time x < time y) := by
  rw [rtake_append, StrictlyAscends, List.pairwise_append]
  constructor
  · rintro ⟨-, hnew, hlt⟩
    refine ⟨hnew, fun hroom x hx y hy => ?_⟩
    obtain ⟨last, hlast⟩ : ∃ last, rows.getLast? = some last :=
      ⟨_, List.getLast?_eq_some_getLast (List.ne_nil_of_mem hx)⟩
    have hkept : last ∈ rows.rtake (n - new.length) := by
      rw [← getLast?_rtake (Nat.sub_pos_of_lt hroom)] at hlast
      exact List.mem_of_getLast? hlast
    have hall : new.rtake n = new := by
      rw [List.rtake, Nat.sub_eq_zero_of_le hroom.le, List.drop_zero]
    rw [hall] at hlt
    exact lt_of_le_of_lt (h.ascends.le_of_getLast? hx hlast) (hlt last hkept y hy)
  · rintro ⟨hnew, hlt⟩
    refine ⟨h.rtake _, hnew, fun x hx y hy => ?_⟩
    rcases lt_or_ge new.length n with hroom | hfull
    · exact hlt hroom x (mem_of_mem_rtake hx) y (mem_of_mem_rtake hy)
    · rw [Nat.sub_eq_zero_of_le hfull, List.rtake_zero] at hx
      cases hx

/-! ### Gaps -/

/-- Each time is a step after the one before. -/
def Gapless (step : ℤ) (times : List ℤ) : Prop := times.IsChain fun t u => u = t + step

instance decidableGapless (step : ℤ) (times : List ℤ) : Decidable (Gapless step times) :=
  inferInstanceAs (Decidable (times.IsChain fun t u => u = t + step))

/-- In a list of increasing times neighbours are the times without one in between. -/
theorem gapless_iff {step : ℤ} {times : List ℤ} (h : times.Pairwise (· < ·)) :
    Gapless step times ↔ ∀ t ∈ times, ∀ u ∈ times, t < u → (∀ x ∈ times, x ≤ t ∨ u ≤ x) →
      u = t + step := by
  induction times with
  | nil => exact iff_of_true List.isChain_nil fun t ht => by cases ht
  | cons a times ih =>
      obtain ⟨hhead, htail⟩ := List.pairwise_cons.1 h
      cases times with
      | nil =>
          refine iff_of_true (List.isChain_singleton a) fun t ht u hu hlt => ?_
          rw [List.mem_singleton.1 ht, List.mem_singleton.1 hu] at hlt
          exact absurd hlt (lt_irrefl a)
      | cons b times =>
          have hab : a < b := hhead b List.mem_cons_self
          have hfirst : ∀ x ∈ b :: times, b ≤ x := by
            intro x hx
            rcases List.mem_cons.1 hx with rfl | hx
            · exact le_rfl
            · exact ((List.pairwise_cons.1 htail).1 x hx).le
          rw [Gapless, List.isChain_cons_cons]
          refine (and_congr_right fun _ => ih htail).trans ⟨?_, fun hall => ⟨?_, ?_⟩⟩
          · rintro ⟨hb, hrest⟩ t ht u hu hlt hnone
            have hlater : u ∈ b :: times := by
              rcases List.mem_cons.1 hu with rfl | hu
              · rcases List.mem_cons.1 ht with rfl | ht
                · exact absurd hlt (lt_irrefl _)
                · exact absurd (hhead t ht) hlt.not_gt
              · exact hu
            rcases List.mem_cons.1 ht with rfl | ht
            · have hub := (hnone b (by simp)).resolve_left hab.not_ge
              rw [le_antisymm hub (hfirst u hlater), hb]
            · exact hrest t ht u hlater hlt fun x hx => hnone x (List.mem_cons_of_mem a hx)
          · refine hall a List.mem_cons_self b (List.mem_cons_of_mem a List.mem_cons_self) hab ?_
            intro x hx
            rcases List.mem_cons.1 hx with rfl | hx
            · exact .inl le_rfl
            · exact .inr (hfirst x hx)
          · intro t ht u hu hlt hnone
            refine hall t (List.mem_cons_of_mem a ht) u (List.mem_cons_of_mem a hu) hlt ?_
            intro x hx
            rcases List.mem_cons.1 hx with rfl | hx
            · exact .inl (hhead t ht).le
            · exact hnone x hx

end Collection
