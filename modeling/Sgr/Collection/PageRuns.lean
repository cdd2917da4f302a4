import Sgr.Collection.Pages

/-!
# Pages that depend on the call

The reading of a range in pages, when the page that a request gets also depends on how many there
were before it. Nothing has to be known of the pages: which of them are read, whether the reading
ends and which rows are read is said in terms of the cursor that goes through them. For a source
that cuts its rows into pages as it likes, the reading is complete exactly if each page covers the
rows up to the next cursor.
-/

namespace Collection

variable {α ε : Type*}

/-- The rows up to a time that are read in at most a number of pages, where the request with the
number `call` gets its page from `fetch call`. -/
def pagesByCall (time : α → ℤ) (fetch : ℕ → ℤ → Except ε (List α)) (limit : ℕ) (step stop : ℤ) :
    ℕ → ℕ → ℤ → Option (Except ε (List α))
  | 0, _, _ => none
  | n + 1, call, since =>
      if since < stop then
        match fetch call since with
        | .error e => some (.error e)
        | .ok page =>
            let kept := page.filter fun x => time x ≤ stop
            if kept.length < limit then some (.ok kept)
            else match kept.getLast? with
              | none => some (.ok kept)
              | some last =>
                  (pagesByCall time fetch limit step stop n (call + 1) (time last + step)).map
                    fun rest => rest.map fun rows => kept ++ rows
      else some (.ok [])

/-- Pages that do not depend on the call. -/
theorem pages_eq_pagesByCall (time : α → ℤ) (fetch : ℤ → Except ε (List α)) (limit : ℕ)
    (step stop : ℤ) (n call : ℕ) (since : ℤ) : pages time fetch limit step stop n since =
      pagesByCall time (fun _ => fetch) limit step stop n call since := by
  induction n generalizing call since with
  | zero => rfl
  | succ n ih =>
      rw [pagesByCall]
      simp only [← ih (call + 1)]
      rfl

/-! ### The cursor -/

section Cursor

variable (time : α → ℤ) (answer : ℕ → ℤ → List α) (limit : ℕ) (step stop : ℤ)

/-- The rows of a page up to the end. -/
def keptRows (call : ℕ) (since : ℤ) : List α := (answer call since).filter fun x => time x ≤ stop

/-- Where the request after a page starts: a step after its last row. -/
def nextSince (call : ℕ) (since : ℤ) : ℤ :=
  ((keptRows time answer stop call since).getLast?.map (time · + step)).getD since

/-- Where the request starts that is a number of pages ahead. -/
def cursor : ℕ → ℕ → ℤ → ℤ
  | 0, _, since => since
  | k + 1, call, since => cursor k (call + 1) (nextSince time answer step stop call since)

/-- The reading ends with a request: it would start at the end or after it, or its page is not
full. -/
def EndsAt (call : ℕ) (since : ℤ) : Prop :=
  stop ≤ since ∨ (keptRows time answer stop call since).length < limit

/-- The page that is a number of pages ahead is read. -/
def IsRead : ℕ → ℕ → ℤ → Prop
  | 0, _, since => since < stop
  | k + 1, call, since =>
      ¬ EndsAt time answer limit stop call since ∧
        IsRead k (call + 1) (nextSince time answer step stop call since)

/-- A page covers the rows of a series from its request to the next one, or to the end if there
is none. -/
def CoversUpToNext (series : List α) (call : ℕ) (since : ℤ) : Prop :=
  ∀ x ∈ series, since ≤ time x → time x ≤ stop → x ∈ keptRows time answer stop call since ∨
    ¬ EndsAt time answer limit stop call since ∧
      nextSince time answer step stop call since < stop ∧
        nextSince time answer step stop call since ≤ time x

/-- The rows that are read from a request on. -/
inductive ReadsRows : ℕ → ℤ → List α → Prop
  | done {call : ℕ} {since : ℤ} (hge : stop ≤ since) : ReadsRows call since []
  | short {call : ℕ} {since : ℤ} (hlt : since < stop)
      (hshort : (keptRows time answer stop call since).length < limit) :
      ReadsRows call since (keptRows time answer stop call since)
  | next {call : ℕ} {since : ℤ} {rest : List α}
      (hmore : ¬ EndsAt time answer limit stop call since)
      (hrest : ReadsRows (call + 1) (nextSince time answer step stop call since) rest) :
      ReadsRows call since (keptRows time answer stop call since ++ rest)

end Cursor

section Reading

variable {time : α → ℤ} {answer : ℕ → ℤ → List α} {limit : ℕ} {step stop since : ℤ} {call n : ℕ}
  {rows : List α} {x : α}

/-- The cursor after a page. -/
theorem cursor_succ (k : ℕ) : cursor time answer step stop (k + 1) call since =
    nextSince time answer step stop (call + k) (cursor time answer step stop k call since) := by
  induction k generalizing call since with
  | zero => rfl
  | succ k ih =>
      rw [cursor, ih, Nat.add_right_comm, Nat.add_assoc]
      rfl

/-- A page that does not end the reading. -/
theorem exists_last_of_not_endsAt (step : ℤ) (hlimit : 0 < limit)
    (h : ¬ EndsAt time answer limit stop call since) :
    since < stop ∧ limit ≤ (keptRows time answer stop call since).length ∧
      ∃ last, (keptRows time answer stop call since).getLast? = some last ∧
        nextSince time answer step stop call since = time last + step := by
  rw [EndsAt, not_or, not_le, not_lt] at h
  refine ⟨h.1, h.2, ?_⟩
  cases hlast : (keptRows time answer stop call since).getLast? with
  | none =>
      rw [List.getLast?_eq_none_iff] at hlast
      rw [hlast, List.length_nil] at h
      exact absurd hlimit h.2.not_gt
  | some last => exact ⟨last, rfl, by rw [nextSince, hlast]; rfl⟩

/-- What one request comes to. -/
theorem pagesByCall_succ (hlimit : 0 < limit) :
    pagesByCall (ε := ε) time (fun call since => .ok (answer call since)) limit step stop (n + 1)
        call since =
      if since < stop then
        if (keptRows time answer stop call since).length < limit then
          some (.ok (keptRows time answer stop call since))
        else (pagesByCall time (fun call since => .ok (answer call since)) limit step stop n
          (call + 1) (nextSince time answer step stop call since)).map fun rest =>
            rest.map fun rows => keptRows time answer stop call since ++ rows
      else some (.ok []) := by
  rw [pagesByCall]
  split
  next hlt =>
    change (if (keptRows time answer stop call since).length < limit then _ else _) = _
    split
    next => rfl
    next hfull =>
      obtain ⟨-, -, last, hlast, hnext⟩ := exists_last_of_not_endsAt step hlimit
        (not_or.2 ⟨not_le.2 hlt, hfull⟩)
      rw [hnext]
      change (match (keptRows time answer stop call since).getLast? with
        | none => _
        | some last => _) = _
      rw [hlast]
      rfl
  next => rfl

/-- Rows are read exactly if enough pages give them. -/
theorem readsRows_iff (hlimit : 0 < limit) :
    ReadsRows time answer limit step stop call since rows ↔ ∃ n, pagesByCall (ε := ε) time
      (fun call since => .ok (answer call since)) limit step stop n call since =
        some (.ok rows) := by
  constructor
  · intro h
    induction h with
    | done hge => exact ⟨1, by rw [pagesByCall_succ hlimit, if_neg hge.not_gt]⟩
    | short hlt hshort =>
        exact ⟨1, by rw [pagesByCall_succ hlimit, if_pos hlt, if_pos hshort]⟩
    | next hmore hrest ih =>
        obtain ⟨n, hn⟩ := ih
        obtain ⟨hlt, hfull, -⟩ := exists_last_of_not_endsAt step hlimit hmore
        refine ⟨n + 1, ?_⟩
        rw [pagesByCall_succ hlimit, if_pos hlt, if_neg hfull.not_gt, hn]
        rfl
  · rintro ⟨n, hn⟩
    induction n generalizing call since rows with
    | zero => cases hn
    | succ n ih =>
        rw [pagesByCall_succ hlimit] at hn
        split at hn
        next hlt =>
          split at hn
          next hshort =>
            cases hn
            exact .short hlt hshort
          next hfull =>
            obtain ⟨rest, hrest, hrows⟩ := Option.map_eq_some_iff.1 hn
            cases rest with
            | error e => cases hrows
            | ok rest =>
                cases hrows
                exact .next (not_or.2 ⟨not_le.2 hlt, hfull⟩) (ih hrest)
        next hge =>
          cases hn
          exact .done (not_lt.1 hge)

/-- A request that ends the reading is read to its end. -/
theorem EndsAt.exists_readsRows (h : EndsAt time answer limit stop call since) :
    ∃ rows, ReadsRows time answer limit step stop call since rows := by
  by_cases hge : stop ≤ since
  · exact ⟨[], .done hge⟩
  · exact ⟨_, .short (not_le.1 hge) (h.resolve_left hge)⟩

/-- The reading comes to an end exactly if one of its requests ends it. -/
theorem exists_readsRows_iff : (∃ rows, ReadsRows time answer limit step stop call since rows) ↔
    ∃ k, EndsAt time answer limit stop (call + k) (cursor time answer step stop k call since) := by
  constructor
  · rintro ⟨rows, h⟩
    induction h with
    | done hge => exact ⟨0, .inl hge⟩
    | short hlt hshort => exact ⟨0, .inr hshort⟩
    | @next call since rest hmore hrest ih =>
        obtain ⟨k, hk⟩ := ih
        rw [Nat.add_right_comm, Nat.add_assoc] at hk
        exact ⟨k + 1, hk⟩
  · rintro ⟨k, hk⟩
    induction k generalizing call since with
    | zero => exact hk.exists_readsRows
    | succ k ih =>
        rw [← Nat.add_assoc, Nat.add_right_comm] at hk
        obtain ⟨rest, hrest⟩ := ih hk
        by_cases hend : EndsAt time answer limit stop call since
        · exact hend.exists_readsRows
        · exact ⟨_, .next hend hrest⟩

/-- Nothing is read from the end on. -/
theorem not_isRead_of_le (hge : stop ≤ since) (k : ℕ) :
    ¬ IsRead time answer limit step stop k call since := by
  cases k with
  | zero => exact hge.not_gt
  | succ k => exact fun hread => hread.1 (.inl hge)

theorem ReadsRows.eq_nil_of_le (h : ReadsRows time answer limit step stop call since rows)
    (hge : stop ≤ since) : rows = [] := by
  cases h with
  | done => rfl
  | short hlt => exact absurd hlt hge.not_gt
  | next hmore => exact absurd (.inl hge) hmore

/-- The rows that are read are those of the pages that are read. -/
theorem ReadsRows.mem_iff (h : ReadsRows time answer limit step stop call since rows) :
    x ∈ rows ↔ ∃ k, IsRead time answer limit step stop k call since ∧
      x ∈ keptRows time answer stop (call + k) (cursor time answer step stop k call since) := by
  induction h with
  | done hge =>
      refine iff_of_false (List.not_mem_nil) ?_
      rintro ⟨k, hread, -⟩
      exact not_isRead_of_le hge k hread
  | short hlt hshort =>
      constructor
      · exact fun hx => ⟨0, hlt, hx⟩
      · rintro ⟨k, hread, hx⟩
        cases k with
        | zero => exact hx
        | succ k => exact absurd (.inr hshort) hread.1
  | @next call since rest hmore hrest ih =>
      rw [List.mem_append, ih]
      constructor
      · rintro (hx | ⟨k, hread, hx⟩)
        · exact ⟨0, not_le.1 fun hge => hmore (.inl hge), hx⟩
        · rw [Nat.add_right_comm, Nat.add_assoc] at hx
          exact ⟨k + 1, ⟨hmore, hread⟩, hx⟩
      · rintro ⟨k, hread, hx⟩
        cases k with
        | zero => exact .inl hx
        | succ k =>
            rw [← Nat.add_assoc, Nat.add_right_comm] at hx
            exact .inr ⟨k, hread.2, hx⟩

end Reading

/-! ### Sources that cut their rows into pages -/

/-- The pages are those of a series, cut as the source likes: each has the first rows from its
request on, at least one if there is any, and at most as many as were asked for. -/
structure ServesPrefixes (time : α → ℤ) (answer : ℕ → ℤ → List α) (limit : ℕ)
    (series : List α) : Prop where
  ascends : StrictlyAscends time series
  isPrefix : ∀ call since, answer call since <+: series.filter fun x => since ≤ time x
  length_le : ∀ call since, (answer call since).length ≤ limit
  ne_nil : ∀ call since, (∃ x ∈ series, since ≤ time x) → answer call since ≠ []

section Prefixes

variable {time : α → ℤ} {answer : ℕ → ℤ → List α} {limit : ℕ} {step stop since : ℤ} {call : ℕ}
  {series rows : List α} {x : α}

theorem ServesPrefixes.mem_of_mem_keptRows (h : ServesPrefixes time answer limit series)
    (hx : x ∈ keptRows time answer stop call since) :
    x ∈ series ∧ since ≤ time x ∧ time x ≤ stop := by
  obtain ⟨hpage, hle⟩ := List.mem_filter.1 hx
  obtain ⟨hmem, hfrom⟩ := List.mem_filter.1 ((h.isPrefix call since).subset hpage)
  exact ⟨hmem, of_decide_eq_true hfrom, of_decide_eq_true hle⟩

/-- The rows of a page come before the next request, which is later than this one. -/
theorem ServesPrefixes.lt_nextSince (h : ServesPrefixes time answer limit series)
    (hlimit : 0 < limit) (hstep : 0 < step) (hmore : ¬ EndsAt time answer limit stop call since) :
    since < nextSince time answer step stop call since ∧
      ∀ x ∈ keptRows time answer stop call since,
        time x < nextSince time answer step stop call since := by
  obtain ⟨-, -, last, hlast, hnext⟩ := exists_last_of_not_endsAt step hlimit hmore
  have hascends : Ascends time (keptRows time answer stop call since) :=
    StrictlyAscends.ascends
      (((h.ascends.filter _).sublist (h.isPrefix call since).sublist).filter _)
  have hfrom := (h.mem_of_mem_keptRows (List.mem_of_getLast? hlast)).2.1
  rw [hnext]
  refine ⟨by omega, fun x hx => ?_⟩
  have hle := hascends.le_of_getLast? hx hlast
  omega

/-- What is read are rows of the series, from the request to the end. -/
theorem ServesPrefixes.mem_of_readsRows (h : ServesPrefixes time answer limit series)
    (hlimit : 0 < limit) (hstep : 0 < step)
    (hread : ReadsRows time answer limit step stop call since rows) (hx : x ∈ rows) :
    x ∈ series ∧ since ≤ time x ∧ time x ≤ stop := by
  induction hread with
  | done hge => cases hx
  | short hlt hshort => exact h.mem_of_mem_keptRows hx
  | next hmore hrest ih =>
      rcases List.mem_append.1 hx with hx | hx
      · exact h.mem_of_mem_keptRows hx
      · obtain ⟨hmem, hfrom, hle⟩ := ih hx
        exact ⟨hmem, (h.lt_nextSince hlimit hstep hmore).1.le.trans hfrom, hle⟩

/-- The reading ends: each request is later than the one before. -/
theorem ServesPrefixes.exists_readsRows (h : ServesPrefixes time answer limit series)
    (hlimit : 0 < limit) (hstep : 0 < step) (call : ℕ) (since : ℤ) :
    ∃ rows, ReadsRows time answer limit step stop call since rows := by
  induction hn : (stop - since).toNat using Nat.strong_induction_on generalizing call since with
  | _ n ih =>
      by_cases hge : stop ≤ since
      · exact ⟨[], .done hge⟩
      by_cases hshort : (keptRows time answer stop call since).length < limit
      · exact ⟨_, .short (not_le.1 hge) hshort⟩
      have hmore : ¬ EndsAt time answer limit stop call since := not_or.2 ⟨hge, hshort⟩
      have hlater := (h.lt_nextSince hlimit hstep hmore).1
      obtain ⟨rest, hrest⟩ := ih _ (by omega) (call + 1)
        (nextSince time answer step stop call since) rfl
      exact ⟨_, .next hmore hrest⟩

/-- All rows of the range are read exactly if each page that is read covers the rows up to the
next one. -/
theorem ServesPrefixes.complete_iff (h : ServesPrefixes time answer limit series)
    (hlimit : 0 < limit) (hstep : 0 < step)
    (hread : ReadsRows time answer limit step stop call since rows) (hlt : since < stop) :
    (∀ x ∈ series, since ≤ time x → time x ≤ stop → x ∈ rows) ↔
      ∀ k, IsRead time answer limit step stop k call since →
        CoversUpToNext time answer limit step stop series (call + k)
          (cursor time answer step stop k call since) := by
  induction hread with
  | done hge => exact absurd hlt hge.not_gt
  | @short call since hlt hshort =>
      constructor
      · intro hall k hk
        cases k with
        | zero => exact fun x hx hfrom hle => .inl (hall x hx hfrom hle)
        | succ k => exact absurd (.inr hshort) hk.1
      · intro hcovers x hx hfrom hle
        rcases hcovers 0 hlt x hx hfrom hle with hmem | ⟨hmore, -⟩
        · exact hmem
        · exact absurd (.inr hshort) hmore
  | @next call since rest hmore hrest ih =>
      obtain ⟨hlater, hbefore⟩ := h.lt_nextSince hlimit hstep hmore
      constructor
      · intro hall k hk
        cases k with
        | zero =>
            intro x hx hfrom hle
            rcases List.mem_append.1 (hall x hx hfrom hle) with hmem | hmem
            · exact .inl hmem
            · -- the row is on a later page
              have hnext : nextSince time answer step stop call since < stop := by
                by_contra hge
                rw [hrest.eq_nil_of_le (not_lt.1 hge)] at hmem
                cases hmem
              exact .inr ⟨hmore, hnext, (h.mem_of_readsRows hlimit hstep hrest hmem).2.1⟩
        | succ k =>
            have hnext : nextSince time answer step stop call since < stop := by
              by_contra hge
              exact not_isRead_of_le (not_lt.1 hge) k hk.2
            have hcovers := (ih hnext).1 (fun x hx hfrom hle => by
              rcases List.mem_append.1 (hall x hx (hlater.le.trans hfrom) hle) with hmem | hmem
              · exact absurd hfrom (hbefore x hmem).not_ge
              · exact hmem) k hk.2
            rwa [Nat.add_right_comm, Nat.add_assoc] at hcovers
      · intro hcovers x hx hfrom hle
        have hfirst := hcovers 0 (not_le.1 fun hge => hmore (.inl hge)) x hx hfrom hle
        rcases hfirst with hmem | ⟨-, hnext, hafter⟩
        · exact List.mem_append_left _ hmem
        · refine List.mem_append_right _ ((ih hnext).2 (fun k hk => ?_) x hx hafter hle)
          have hcover := hcovers (k + 1) ⟨hmore, hk⟩
          rwa [← Nat.add_assoc, Nat.add_right_comm] at hcover

end Prefixes

end Collection
