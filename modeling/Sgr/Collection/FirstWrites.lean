import Mathlib.Data.List.Sort

/-!
# Tables in which the first write under a key stays

A row whose key is taken is not written. Rows are read by a condition, in the order of a
time, up to a limit.
-/

namespace Collection

section Insert

variable {α β κ κ' : Type*} [DecidableEq κ] [DecidableEq κ']

/-- A row is written when its key is free. -/
def insertNew (key : α → κ) (rows : List α) (row : α) : List α :=
  if key row ∈ rows.map key then rows else rows ++ [row]

/-- Rows are written one after the other. -/
def insertAll (key : α → κ) (rows new : List α) : List α := new.foldl (insertNew key) rows

variable {key : α → κ} {rows new : List α} {row : α}

theorem insertAll_append (key : α → κ) (rows new new' : List α) :
    insertAll key rows (new ++ new') = insertAll key (insertAll key rows new) new' :=
  List.foldl_append

theorem nodup_insertNew (h : (rows.map key).Nodup) (row : α) :
    ((insertNew key rows row).map key).Nodup := by
  unfold insertNew
  split
  next => exact h
  next hfree =>
    rw [List.map_append, List.map_singleton]
    exact List.nodup_append'.2 ⟨h, List.nodup_singleton _, List.disjoint_singleton.2 hfree⟩

theorem nodup_insertAll (h : (rows.map key).Nodup) (new : List α) :
    ((insertAll key rows new).map key).Nodup := by
  induction new generalizing rows with
  | nil => exact h
  | cons row new ih => exact ih (nodup_insertNew h row)

theorem nodup_insertAll_nil (key : α → κ) (new : List α) :
    ((insertAll key [] new).map key).Nodup := by
  apply nodup_insertAll
  exact List.nodup_nil

theorem subset_insertNew (key : α → κ) (rows : List α) (row : α) :
    rows ⊆ insertNew key rows row := by
  unfold insertNew
  split
  next => exact List.Subset.refl rows
  next => exact List.subset_append_left _ _

theorem mem_insertNew {x : α} (h : x ∈ insertNew key rows row) : x ∈ rows ∨ x = row := by
  unfold insertNew at h
  split at h
  next => exact .inl h
  next => exact (List.mem_append.1 h).imp id List.mem_singleton.1

theorem subset_insertAll (key : α → κ) (rows new : List α) : rows ⊆ insertAll key rows new := by
  induction new generalizing rows with
  | nil => exact List.Subset.refl rows
  | cons row new ih => exact List.Subset.trans (subset_insertNew key rows row) (ih _)

theorem mem_insertAll {x : α} (h : x ∈ insertAll key rows new) : x ∈ rows ∨ x ∈ new := by
  induction new generalizing rows with
  | nil => exact .inl h
  | cons row new ih =>
      rcases ih h with hx | hx
      · rcases mem_insertNew hx with hx | rfl
        · exact .inl hx
        · exact .inr List.mem_cons_self
      · exact .inr (List.mem_cons_of_mem row hx)

theorem insertAll_nil_eq_nil_iff : insertAll key [] new = [] ↔ new = [] := by
  constructor
  · intro h
    cases new with
    | nil => rfl
    | cons row new =>
        have hrow : row ∈ insertAll key [] (row :: new) :=
          subset_insertAll key [row] new List.mem_cons_self
        rw [h] at hrow
        cases hrow
  · rintro rfl
    rfl

/-- The rows that a condition on the key selects are written as if there were no others. -/
theorem filter_insertAll {p : α → Bool} (hp : ∀ x y, key x = key y → p x = p y)
    (rows new : List α) :
    (insertAll key rows new).filter p = insertAll key (rows.filter p) (new.filter p) := by
  have hstep : ∀ rows row, (insertNew key rows row).filter p =
      if p row then insertNew key (rows.filter p) row else rows.filter p := by
    intro rows row
    cases hrow : p row with
    | true =>
        have hmem : key row ∈ (rows.filter p).map key ↔ key row ∈ rows.map key := by
          rw [List.mem_map, List.mem_map]
          refine exists_congr fun x => and_congr_left fun hkey => ?_
          rw [List.mem_filter, hp x row hkey, hrow, and_iff_left rfl]
        rw [if_pos rfl, insertNew, insertNew]
        by_cases htaken : key row ∈ rows.map key
        · rw [if_pos htaken, if_pos (hmem.2 htaken)]
        · rw [if_neg htaken, if_neg (mt hmem.1 htaken), List.filter_append,
            List.filter_singleton, hrow]
          rfl
    | false =>
        rw [if_neg Bool.false_ne_true, insertNew]
        split
        next => rfl
        next =>
          rw [List.filter_append, List.filter_singleton, hrow]
          exact List.append_nil _
  induction new generalizing rows with
  | nil => rfl
  | cons row new ih =>
      change (insertAll key (insertNew key rows row) new).filter p = _
      rw [ih, hstep, List.filter_cons]
      split <;> rfl

/-- A condition that selects whole blocks of rows. -/
theorem filter_flatMap_map {γ : Type*} {p : β → Bool} {q : γ → Bool} {blocks : List γ}
    {rowsOf : γ → List α} {f : α → β}
    (h : ∀ b ∈ blocks, ∀ x ∈ rowsOf b, p (f x) = q b) :
    (blocks.flatMap fun b => (rowsOf b).map f).filter p =
      ((blocks.filter q).flatMap rowsOf).map f := by
  induction blocks with
  | nil => rfl
  | cons b blocks ih =>
      rw [List.flatMap_cons, List.filter_append,
        ih fun b' hb' => h b' (List.mem_cons_of_mem b hb'), List.filter_cons]
      have hb := h b List.mem_cons_self
      cases hq : q b with
      | true =>
          rw [if_pos rfl, List.flatMap_cons, List.map_append]
          congr 1
          refine List.filter_eq_self.2 fun y hy => ?_
          obtain ⟨x, hx, rfl⟩ := List.mem_map.1 hy
          rw [hb x hx, hq]
      | false =>
          have hnil : ((rowsOf b).map f).filter p = [] := by
            refine List.filter_eq_nil_iff.2 fun y hy => ?_
            obtain ⟨x, hx, rfl⟩ := List.mem_map.1 hy
            rw [hb x hx, hq]
            exact Bool.false_ne_true
          rw [if_neg Bool.false_ne_true, hnil, List.nil_append]

/-- A function under which rows have the same key exactly when they had it before. -/
theorem map_insertAll {key' : β → κ'} {f : α → β}
    (hf : ∀ x ∈ rows ++ new, ∀ y ∈ new, key' (f x) = key' (f y) ↔ key x = key y) :
    (insertAll key rows new).map f = insertAll key' (rows.map f) (new.map f) := by
  induction new generalizing rows with
  | nil => rfl
  | cons row new ih =>
      have hstep : (insertNew key rows row).map f = insertNew key' (rows.map f) (f row) := by
        have hmem : key' (f row) ∈ (rows.map f).map key' ↔ key row ∈ rows.map key := by
          simp only [List.mem_map, exists_exists_and_eq_and]
          exact exists_congr fun x => and_congr_right fun hx =>
            hf x (List.mem_append_left _ hx) row List.mem_cons_self
        rw [insertNew, insertNew]
        by_cases htaken : key row ∈ rows.map key
        · rw [if_pos htaken, if_pos (hmem.2 htaken)]
        · rw [if_neg htaken, if_neg (mt hmem.1 htaken), List.map_append, List.map_singleton]
      change (insertAll key (insertNew key rows row) new).map f = _
      rw [ih, hstep]
      · rfl
      · intro x hx y hy
        refine hf x ?_ y (List.mem_cons_of_mem row hy)
        rcases List.mem_append.1 hx with hx | hx
        · rcases mem_insertNew hx with hx | rfl
          · exact List.mem_append_left _ hx
          · exact List.mem_append_right _ List.mem_cons_self
        · exact List.mem_append_right _ (List.mem_cons_of_mem row hx)

end Insert

section Select

variable {α β : Type*} {time : α → ℤ}

/-- The first rows of a range of times, in the order of time. -/
def selectRange (time : α → ℤ) (start stop : ℤ) (limit : ℕ) (rows : List α) : List α :=
  ((rows.filter fun x => start ≤ time x ∧ time x ≤ stop).insertionSort
    fun x y => time x ≤ time y).take limit

theorem mem_of_mem_selectRange {start stop : ℤ} {limit : ℕ} {rows : List α} {x : α}
    (h : x ∈ selectRange time start stop limit rows) : x ∈ rows :=
  List.mem_of_mem_filter ((List.mem_insertionSort _).1 (List.mem_of_mem_take h))

theorem mem_range_of_mem_selectRange {start stop : ℤ} {limit : ℕ} {rows : List α} {x : α}
    (h : x ∈ selectRange time start stop limit rows) : start ≤ time x ∧ time x ≤ stop :=
  of_decide_eq_true (List.mem_filter.1 ((List.mem_insertionSort _).1 (List.mem_of_mem_take h))).2

theorem selectRange_map (f : β → α) (start stop : ℤ) (limit : ℕ) (rows : List β) :
    selectRange time start stop limit (rows.map f) =
      (selectRange (time ∘ f) start stop limit rows).map f := by
  rw [selectRange, selectRange, List.map_take, List.filter_map,
    List.map_insertionSort (fun x y => (time ∘ f) x ≤ (time ∘ f) y)
      (fun x y => time x ≤ time y) f _ fun _ _ _ _ => Iff.rfl]
  rfl

/-- The row of a time at which there is one. -/
theorem selectRange_self {rows : List α} {x : α} {limit : ℕ} (hx : x ∈ rows)
    (hnodup : (rows.map time).Nodup) (hlimit : 0 < limit) :
    selectRange time (time x) (time x) limit rows = [x] := by
  have hfilter : (rows.filter fun y => time x ≤ time y ∧ time y ≤ time x) = [x] := by
    have hperm : (rows.filter fun y => time x ≤ time y ∧ time y ≤ time x).Perm [x] := by
      refine (List.perm_ext_iff_of_nodup ?_ (List.nodup_singleton x)).2 fun y => ?_
      · exact (List.Nodup.of_map time hnodup).filter _
      · rw [List.mem_filter, List.mem_singleton, decide_eq_true_eq]
        constructor
        · rintro ⟨hy, hle, hge⟩
          exact List.inj_on_of_nodup_map hnodup hy hx (le_antisymm hge hle)
        · rintro rfl
          exact ⟨hx, le_refl _, le_refl _⟩
    exact List.perm_singleton.1 hperm
  rw [selectRange, hfilter, List.insertionSort_cons, List.insertionSort_nil]
  exact List.take_of_length_le hlimit

end Select

end Collection
