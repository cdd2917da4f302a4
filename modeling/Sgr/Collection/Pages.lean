import Sgr.Collection.Series

/-!
# Series that are read in pages

A range of a series is read page by page: a page has the first rows from some time on, and the
next one starts a step after its last row. The reading ends with the range, or with a page that
is not full.
-/

namespace Collection

variable {α ε : Type*} {time : α → ℤ} {fetch : ℤ → Except ε (List α)} {limit : ℕ} {step stop : ℤ}

/-- The rows up to a time that are read in at most a number of pages, the first of them from
`since` on; `none` when these pages are not enough. -/
def pages (time : α → ℤ) (fetch : ℤ → Except ε (List α)) (limit : ℕ) (step stop : ℤ) :
    ℕ → ℤ → Option (Except ε (List α))
  | 0, _ => none
  | n + 1, since =>
      if since < stop then
        match fetch since with
        | .error e => some (.error e)
        | .ok page =>
            let kept := page.filter fun x => time x ≤ stop
            if kept.length < limit then some (.ok kept)
            else match kept.getLast? with
              | none => some (.ok kept)
              | some last =>
                  (pages time fetch limit step stop n (time last + step)).map fun rest =>
                    rest.map fun rows => kept ++ rows
      else some (.ok [])

/-- The pages are those of a series: what is asked for from `since` on are the first rows from
`lower since` on. -/
structure ServesPages (time : α → ℤ) (lower : ℤ → ℤ) (fetch : ℤ → Except ε (List α)) (limit : ℕ)
    (series : List α) : Prop where
  ascends : StrictlyAscends time series
  answers : ∀ since page, fetch since = .ok page →
    page = (series.filter fun x => lower since ≤ time x).take limit

/-- A time is lowered, by less than a step. -/
structure LowersWithin (lower : ℤ → ℤ) (step : ℤ) : Prop where
  mono : ∀ s t, s ≤ t → lower s ≤ lower t
  le : ∀ t, lower t ≤ t
  within : ∀ t, t < lower t + step

/-- The rows from the lowered start to before the end. -/
def rowsBefore (time : α → ℤ) (lower : ℤ → ℤ) (stop since : ℤ) (series : List α) : List α :=
  (series.filter fun x => lower since ≤ time x).filter fun x => time x < stop

/-- The rows before the end fill their pages, and the last of them is a step before it. -/
def EndsOnPage (time : α → ℤ) (lower : ℤ → ℤ) (limit : ℕ) (step stop since : ℤ)
    (series : List α) : Prop :=
  limit ∣ (rowsBefore time lower stop since series).length ∧
    (rowsBefore time lower stop since series).getLast?.map (time · + step) = some stop

/-! ### One page -/

section Page

variable {lower : ℤ → ℤ} {series page rows : List α} {since : ℤ} {x last : α}

theorem LowersWithin.lt (h : LowersWithin lower step) (t : ℤ) : t < lower (t + step) := by
  have hwithin : t + step < lower (t + step) + step := h.within (t + step)
  omega

/-- The next page starts after the one before. -/
theorem LowersWithin.since_lt (h : LowersWithin lower step) (hle : lower since ≤ time last) :
    since < time last + step := by
  have hwithin := h.within since
  omega

theorem ServesPages.mem (h : ServesPages time lower fetch limit series)
    (hpage : fetch since = .ok page) (hx : x ∈ page) : x ∈ series ∧ lower since ≤ time x := by
  rw [h.answers since page hpage] at hx
  simpa using List.mem_of_mem_take hx

/-- Of the rows from the lowered start on, those that are not on the page are later. -/
theorem ServesPages.filter_eq (h : ServesPages time lower fetch limit series)
    (hpage : fetch since = .ok page) :
    ∃ later, (series.filter fun x => lower since ≤ time x) = page ++ later ∧
      (page.length < limit → later = []) ∧ page.length ≤ limit := by
  rw [h.answers since page hpage]
  refine ⟨(series.filter fun x => lower since ≤ time x).drop limit,
    (List.take_append_drop limit _).symm, fun hlt => ?_, ?_⟩
  · rw [List.length_take] at hlt
    exact List.drop_eq_nil_of_le (by omega)
  · rw [List.length_take]
    exact min_le_left limit _

/-- After a page the rows go on a step after its last one. -/
theorem ServesPages.filter_eq_append (h : ServesPages time lower fetch limit series)
    (hlower : LowersWithin lower step)
    (hspaced : series.Pairwise fun x y => time x + step ≤ time y)
    (hpage : fetch since = .ok page) (hlast : page.getLast? = some last) :
    (series.filter fun x => lower since ≤ time x) =
      page ++ series.filter fun x => lower (time last + step) ≤ time x := by
  obtain ⟨later, hsplit, -, -⟩ := h.filter_eq hpage
  have hmem := List.mem_of_getLast? hlast
  have hspaced' : (page ++ later).Pairwise fun x y => time x + step ≤ time y := by
    rw [← hsplit]
    exact hspaced.filter _
  have hascends : StrictlyAscends time (page ++ later) := by
    rw [← hsplit]
    exact h.ascends.filter _
  obtain ⟨hpageAscends, -, -⟩ := List.pairwise_append.1 hascends
  have hmono : lower since ≤ lower (time last + step) :=
    hlower.mono _ _ (hlower.since_lt (h.mem hpage hmem).2).le
  have hfilter : (series.filter fun x => lower (time last + step) ≤ time x) =
      (page ++ later).filter fun x => lower (time last + step) ≤ time x := by
    rw [← hsplit, List.filter_filter]
    refine List.filter_congr fun x _ => ?_
    rw [eq_comm, Bool.and_eq_left_iff_imp]
    intro hle
    exact decide_eq_true (hmono.trans (of_decide_eq_true hle))
  have hnone : page.filter (fun x => lower (time last + step) ≤ time x) = [] := by
    refine List.filter_eq_nil_iff.2 fun x hx => ?_
    have hle := (StrictlyAscends.ascends hpageAscends).le_of_getLast? hx hlast
    have hlt := hlower.lt (time last)
    simp only [decide_eq_true_eq, not_le]
    omega
  have hall : later.filter (fun x => lower (time last + step) ≤ time x) = later := by
    refine List.filter_eq_self.2 fun x hx => decide_eq_true ?_
    exact (hlower.le _).trans ((List.pairwise_append.1 hspaced').2.2 last hmem x hx)
  rw [hsplit, hfilter, List.filter_append, hnone, hall, List.nil_append]

end Page

/-! ### All pages -/

/-- The pages from `since` on have been read, and these are the rows that were kept. -/
inductive PagesRead (time : α → ℤ) (fetch : ℤ → Except ε (List α)) (limit : ℕ) (step stop : ℤ) :
    ℤ → List α → Prop
  | done {since : ℤ} (hge : stop ≤ since) : PagesRead time fetch limit step stop since []
  | short {since : ℤ} {page : List α} (hlt : since < stop) (hpage : fetch since = .ok page)
      (hshort : (page.filter fun x => time x ≤ stop).length < limit) :
      PagesRead time fetch limit step stop since (page.filter fun x => time x ≤ stop)
  | next {since : ℤ} {page rest : List α} {last : α} (hlt : since < stop)
      (hpage : fetch since = .ok page)
      (hfull : limit ≤ (page.filter fun x => time x ≤ stop).length)
      (hlast : (page.filter fun x => time x ≤ stop).getLast? = some last)
      (hrest : PagesRead time fetch limit step stop (time last + step) rest) :
      PagesRead time fetch limit step stop since ((page.filter fun x => time x ≤ stop) ++ rest)

section Run

variable {lower : ℤ → ℤ} {series rows : List α} {since : ℤ} {n : ℕ} {x : α}

theorem pagesRead_of_pages (hlimit : 0 < limit)
    (h : pages time fetch limit step stop n since = some (.ok rows)) :
    PagesRead time fetch limit step stop since rows := by
  induction n generalizing since rows with
  | zero => cases h
  | succ n ih =>
      rw [pages] at h
      split at h
      next hlt =>
        cases hpage : fetch since with
        | error e =>
            rw [hpage] at h
            cases h
        | ok page =>
            simp only [hpage] at h
            split at h
            next hshort =>
              cases h
              exact .short hlt hpage hshort
            next hfull =>
              cases hlast : (page.filter fun x => time x ≤ stop).getLast? with
              | none =>
                  rw [List.getLast?_eq_none_iff] at hlast
                  rw [hlast] at hfull
                  exact absurd hlimit hfull
              | some last =>
                  simp only [hlast, Option.map_eq_some_iff] at h
                  obtain ⟨answer, hanswer, hrows⟩ := h
                  cases answer with
                  | error e => cases hrows
                  | ok rest =>
                      cases hrows
                      exact .next hlt hpage (not_lt.1 hfull) hlast (ih hanswer)
      next hge =>
        cases h
        exact .done (not_lt.1 hge)

/-- The rows that are kept are rows of the series, from the lowered start to the end. -/
theorem PagesRead.mem (h : PagesRead time fetch limit step stop since rows)
    (hserves : ServesPages time lower fetch limit series) (hlower : LowersWithin lower step)
    (hx : x ∈ rows) : x ∈ series ∧ lower since ≤ time x ∧ time x ≤ stop := by
  induction h with
  | done => cases hx
  | short hlt hpage hshort =>
      obtain ⟨hmem, hle⟩ := List.mem_filter.1 hx
      obtain ⟨hseries, hfrom⟩ := hserves.mem hpage hmem
      exact ⟨hseries, hfrom, of_decide_eq_true hle⟩
  | next hlt hpage hfull hlast hrest ih =>
      rcases List.mem_append.1 hx with hx | hx
      · obtain ⟨hmem, hle⟩ := List.mem_filter.1 hx
        obtain ⟨hseries, hfrom⟩ := hserves.mem hpage hmem
        exact ⟨hseries, hfrom, of_decide_eq_true hle⟩
      · obtain ⟨hseries, hfrom, hle⟩ := ih hx
        have hlast := (hserves.mem hpage (List.mem_filter.1 (List.mem_of_getLast? hlast)).1).2
        exact ⟨hseries, (hlower.mono _ _ (hlower.since_lt hlast).le).trans hfrom, hle⟩

/-- Rows that are a step apart from their neighbours are so from all others. -/
theorem add_le_of_pairwise {series : List α} {y : α} (hstep : 0 < step)
    (h : series.Pairwise fun x y => time x + step ≤ time y) (hx : x ∈ series) (hy : y ∈ series)
    (hlt : time x < time y) : time x + step ≤ time y := by
  induction series with
  | nil => cases hx
  | cons z series ih =>
      obtain ⟨hz, hrest⟩ := List.pairwise_cons.1 h
      rcases List.mem_cons.1 hx with rfl | hx
      · rcases List.mem_cons.1 hy with rfl | hy
        · exact absurd hlt (lt_irrefl _)
        · exact hz y hy
      · rcases List.mem_cons.1 hy with rfl | hy
        · rename_i hmem
          have hle := hz x hmem
          omega
        · exact ih hrest hx hy

/-- Pages that are not filled do not end with the range. -/
theorem not_endsOnPage_of_length_lt
    (h : (rowsBefore time lower stop since series).length < limit) :
    ¬ EndsOnPage time lower limit step stop since series := by
  rintro ⟨hdvd, hlast⟩
  have hzero := Nat.eq_zero_of_dvd_of_lt hdvd h
  rw [List.length_eq_zero_iff.1 hzero] at hlast
  cases hlast

/-- A page of which less than the limit is kept has all rows of the range. -/
theorem ServesPages.filter_eq_of_length_lt (h : ServesPages time lower fetch limit series)
    (hpage : fetch since = .ok page)
    (hshort : (page.filter fun x => time x ≤ stop).length < limit) :
    ((series.filter fun x => lower since ≤ time x).filter fun x => time x ≤ stop) =
      page.filter fun x => time x ≤ stop := by
  obtain ⟨later, hsplit, hnil, hlength⟩ := h.filter_eq hpage
  have hascends : StrictlyAscends time (page ++ later) := by
    rw [← hsplit]
    exact h.ascends.filter _
  rw [hsplit, List.filter_append, List.append_right_eq_self]
  refine List.filter_eq_nil_iff.2 fun x hx => ?_
  have hfull : limit ≤ page.length := by
    by_contra hlt
    rw [hnil (not_le.1 hlt)] at hx
    cases hx
  obtain ⟨y, hy, hlate⟩ : ∃ y ∈ page, ¬ time y ≤ stop := by
    by_contra hall
    push Not at hall
    rw [List.filter_eq_self.2 fun y hy => decide_eq_true (hall y hy)] at hshort
    omega
  have hlt := (List.pairwise_append.1 hascends).2.2 y hy x hx
  simp only [decide_eq_true_eq]
  omega

/-- A page that is kept and full is kept as a whole. -/
theorem ServesPages.filter_eq_self (h : ServesPages time lower fetch limit series)
    (hpage : fetch since = .ok page)
    (hfull : limit ≤ (page.filter fun x => time x ≤ stop).length) :
    (page.filter fun x => time x ≤ stop) = page ∧ page.length = limit := by
  obtain ⟨-, -, -, hlength⟩ := h.filter_eq hpage
  have hle := List.length_filter_le (fun x => decide (time x ≤ stop)) page
  exact ⟨List.filter_sublist.eq_of_length_le (by omega), by omega⟩

/-- The rows before the end that come after a page. -/
theorem ServesPages.rowsBefore_eq (h : ServesPages time lower fetch limit series)
    (hlower : LowersWithin lower step)
    (hspaced : series.Pairwise fun x y => time x + step ≤ time y)
    (hpage : fetch since = .ok page) (hlast : page.getLast? = some last) :
    rowsBefore time lower stop since series = page.filter (fun x => time x < stop) ++
      rowsBefore time lower stop (time last + step) series := by
  rw [rowsBefore, h.filter_eq_append hlower hspaced hpage hlast, List.filter_append, rowsBefore]

theorem mem_rowsBefore : x ∈ rowsBefore time lower stop since series ↔
    x ∈ series ∧ lower since ≤ time x ∧ time x < stop := by
  simp only [rowsBefore, List.mem_filter, decide_eq_true_eq, and_assoc]

theorem filter_lt_eq (rows : List α) : (rows.filter fun x => time x < stop) =
    (rows.filter fun x => time x ≤ stop).filter fun x => time x < stop := by
  rw [List.filter_filter]
  refine List.filter_congr fun y _ => ?_
  rw [eq_comm, Bool.and_eq_left_iff_imp]
  intro hy
  exact decide_eq_true (of_decide_eq_true hy).le

/-- A row from the start of a page on is on it, or it comes a step after its last one. -/
theorem ServesPages.mem_or_le (h : ServesPages time lower fetch limit series)
    (hlower : LowersWithin lower step)
    (hspaced : series.Pairwise fun x y => time x + step ≤ time y) (hstep : 0 < step)
    (hpage : fetch since = .ok page) (hlast : page.getLast? = some last) (hx : x ∈ series)
    (hfrom : lower since ≤ time x) :
    x ∈ page ∧ time x ≤ time last ∨ x ∉ page ∧ time last + step ≤ time x := by
  have hlastSeries := (h.mem hpage (List.mem_of_getLast? hlast)).1
  have hascends : Ascends time page := by
    rw [h.answers since page hpage]
    exact StrictlyAscends.ascends (h.ascends.filter _).take
  by_cases hmem : x ∈ page
  · exact .inl ⟨hmem, hascends.le_of_getLast? hmem hlast⟩
  · have hlater : x ∈ page ++ series.filter fun x => lower (time last + step) ≤ time x := by
      rw [← h.filter_eq_append hlower hspaced hpage hlast]
      simp [hx, hfrom]
    have hrest := (List.mem_append.1 hlater).resolve_left hmem
    have hfrom := of_decide_eq_true (List.mem_filter.1 hrest).2
    exact .inr ⟨hmem, add_le_of_pairwise hstep hspaced hlastSeries hx
      ((hlower.lt (time last)).trans_le hfrom)⟩

/-- A page whose rows are before the end is kept as one of those before the end. -/
theorem ServesPages.filter_lt_eq_self (h : ServesPages time lower fetch limit series)
    (hpage : fetch since = .ok page) (hlast : page.getLast? = some last)
    (hlt : time last < stop) : page.filter (fun x => time x < stop) = page := by
  have hascends : Ascends time page := by
    rw [h.answers since page hpage]
    exact StrictlyAscends.ascends (h.ascends.filter _).take
  exact List.filter_eq_self.2 fun x hx =>
    decide_eq_true ((hascends.le_of_getLast? hx hlast).trans_lt hlt)

/-- Pages before a full one end with the range exactly if those after it do. -/
theorem ServesPages.endsOnPage_iff_next (h : ServesPages time lower fetch limit series)
    (hlower : LowersWithin lower step)
    (hspaced : series.Pairwise fun x y => time x + step ≤ time y) (hstep : 0 < step)
    (hpage : fetch since = .ok page) (hfull : page.length = limit)
    (hlast : page.getLast? = some last) (hmore : time last + step < stop) :
    EndsOnPage time lower limit step stop since series ↔
      EndsOnPage time lower limit step stop (time last + step) series := by
  have hself := h.filter_lt_eq_self hpage hlast (by omega : time last < stop)
  rw [EndsOnPage, h.rowsBefore_eq hlower hspaced hpage hlast, hself, EndsOnPage,
    List.length_append, hfull, Nat.dvd_add_right (Nat.dvd_refl limit), List.getLast?_append]
  refine and_congr_right fun _ => ?_
  cases (rowsBefore time lower stop (time last + step) series).getLast? with
  | none =>
      rw [Option.none_or, hlast]
      simp [hmore.ne]
  | some y => rw [Option.some_or]

/-- The last full page ends with the range exactly if it ends a step before it. -/
theorem ServesPages.endsOnPage_iff_last (h : ServesPages time lower fetch limit series)
    (hlower : LowersWithin lower step)
    (hspaced : series.Pairwise fun x y => time x + step ≤ time y) (hstep : 0 < step)
    (hpage : fetch since = .ok page) (hfull : page.length = limit)
    (hlast : page.getLast? = some last) (hle : time last ≤ stop)
    (hend : stop ≤ time last + step) :
    EndsOnPage time lower limit step stop since series ↔ time last + step = stop := by
  have hmemLast := List.mem_of_getLast? hlast
  have hlastSeries := (h.mem hpage hmemLast).1
  have hafter : rowsBefore time lower stop (time last + step) series = [] := by
    refine List.eq_nil_iff_forall_not_mem.2 fun y hy => ?_
    obtain ⟨hseries, hfrom, hlt⟩ := mem_rowsBefore.1 hy
    have hlater := add_le_of_pairwise hstep hspaced hlastSeries hseries
      ((hlower.lt (time last)).trans_le hfrom)
    omega
  have hbefore : rowsBefore time lower stop since series =
      page.filter fun x => time x < stop := by
    rw [h.rowsBefore_eq hlower hspaced hpage hlast, hafter, List.append_nil]
  rcases hle.lt_or_eq with hlt | heq
  · rw [h.filter_lt_eq_self hpage hlast hlt] at hbefore
    rw [EndsOnPage, hbefore, hfull, hlast]
    simp
  · refine iff_of_false (not_endsOnPage_of_length_lt ?_) (by omega)
    rw [hbefore, ← hfull]
    exact List.length_filter_lt_length_iff_exists.2 ⟨last, hmemLast, by simp [heq]⟩

/-- Of the rows of the range exactly one can be missed: the one at its end, when the rows before
it fill their pages and go up to a step before it. -/
theorem PagesRead.mem_iff (h : PagesRead time fetch limit step stop since rows)
    (hserves : ServesPages time lower fetch limit series) (hlower : LowersWithin lower step)
    (hspaced : series.Pairwise fun x y => time x + step ≤ time y) (hstep : 0 < step)
    (hlt : since < stop) (hx : x ∈ series) (hfrom : lower since ≤ time x) (hle : time x ≤ stop) :
    x ∈ rows ↔ ¬ (time x = stop ∧ EndsOnPage time lower limit step stop since series) := by
  induction h with
  | done hge => exact absurd hlt (not_lt.2 hge)
  | @short since page _ hpage hshort =>
      have hall := hserves.filter_eq_of_length_lt hpage hshort
      have hmem : x ∈ page.filter fun x => time x ≤ stop := by
        rw [← hall]
        simp [hx, hfrom, hle]
      refine iff_of_true hmem fun ⟨hend, hpages⟩ => not_endsOnPage_of_length_lt ?_ hpages
      have hbefore : rowsBefore time lower stop since series =
          (page.filter fun x => time x ≤ stop).filter fun x => time x < stop := by
        rw [← hall, rowsBefore]
        exact filter_lt_eq _
      rw [hbefore]
      exact ((List.length_filter_lt_length_iff_exists).2
        ⟨x, hmem, by simp [hend]⟩).trans hshort
  | @next since page rest last _ hpage hfull hlast hrest ih =>
      obtain ⟨hkept, hlength⟩ := hserves.filter_eq_self hpage hfull
      rw [hkept] at hlast ⊢
      have hmemLast := List.mem_of_getLast? hlast
      have hlastLe : time last ≤ stop := by
        rw [← hkept] at hmemLast
        exact of_decide_eq_true (List.mem_filter.1 hmemLast).2
      have hside := hserves.mem_or_le hlower hspaced hstep hpage hlast hx hfrom
      by_cases hmore : time last + step < stop
      · rw [hserves.endsOnPage_iff_next hlower hspaced hstep hpage hlength hlast hmore,
          List.mem_append]
        rcases hside with ⟨hmem, hbefore⟩ | ⟨hmem, hafter⟩
        · exact iff_of_true (.inl hmem) fun ⟨hend, _⟩ => by omega
        · rw [or_iff_right hmem]
          exact ih hmore ((hlower.le _).trans hafter)
      · have hend := not_lt.1 hmore
        have hnil : rest = [] := by
          cases hrest with
          | done => rfl
          | short hlt => exact absurd hlt hmore
          | next hlt => exact absurd hlt hmore
        rw [hserves.endsOnPage_iff_last hlower hspaced hstep hpage hlength hlast hlastLe hend,
          hnil, List.append_nil]
        rcases hside with ⟨hmem, hbefore⟩ | ⟨hmem, hafter⟩
        · exact iff_of_true hmem fun ⟨hx, hlast⟩ => by omega
        · exact iff_of_false hmem (not_not.2 ⟨by omega, by omega⟩)

/-- The reading ends: each page starts later than the one before. With a page for every request
it does not fail. -/
theorem exists_pages_eq (hserves : ServesPages time lower fetch limit series)
    (hlower : LowersWithin lower step) (hn : (stop - since).toNat < n) :
    ∃ answer, pages time fetch limit step stop n since = some answer ∧
      ((∀ since, ∃ page, fetch since = .ok page) → ∃ rows, answer = .ok rows) := by
  induction n generalizing since with
  | zero => cases hn
  | succ n ih =>
      rw [pages]
      by_cases hlt : since < stop
      · rw [if_pos hlt]
        cases hpage : fetch since with
        | error e =>
            refine ⟨.error e, rfl, fun hok => ?_⟩
            obtain ⟨page, hpage'⟩ := hok since
            rw [hpage] at hpage'
            cases hpage'
        | ok page =>
            simp only
            split
            next => exact ⟨.ok _, rfl, fun _ => ⟨_, rfl⟩⟩
            next =>
              cases hlast : (page.filter fun x => time x ≤ stop).getLast? with
              | none => exact ⟨.ok _, rfl, fun _ => ⟨_, rfl⟩⟩
              | some last =>
                  have hmem := (List.mem_filter.1 (List.mem_of_getLast? hlast)).1
                  have hlater := hlower.since_lt (hserves.mem hpage hmem).2
                  have hfewer : (stop - (time last + step)).toNat < n := by omega
                  obtain ⟨answer, hanswer, hok⟩ := ih hfewer
                  refine ⟨_, congrArg (Option.map _) hanswer, fun h => ?_⟩
                  obtain ⟨rows, rfl⟩ := hok h
                  exact ⟨_, rfl⟩
      · rw [if_neg hlt]
        exact ⟨.ok [], rfl, fun _ => ⟨[], rfl⟩⟩

end Run

end Collection
