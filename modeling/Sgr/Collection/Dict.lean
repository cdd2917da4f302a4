import Mathlib.Data.List.Nodup

/-!
# Insertion-ordered dictionaries

A dictionary keeps its entries in the order in which their keys were first
inserted, with no key twice: assigning to a present key replaces the value in
place, assigning to a new key appends, and deleting drops the entry. That no key
occurs twice is a field of the structure, so look-up, membership and iteration
agree without side conditions.
-/

namespace Collection

/-- A finite map from `κ` to `ν` that remembers insertion order. -/
structure Dict (κ ν : Type*) where
  /-- The entries, oldest key first. -/
  entries : List (κ × ν)
  /-- No key occurs twice. -/
  nodup_keys : (entries.map Prod.fst).Nodup
  deriving DecidableEq

namespace Dict

variable {κ ν : Type*}

/-- The dictionary without entries. -/
def empty : Dict κ ν := ⟨[], List.nodup_nil⟩

/-- The values, in insertion order. -/
def values (d : Dict κ ν) : List ν := d.entries.map Prod.snd

variable [DecidableEq κ]

/-- The value of a key in a list of entries. -/
def find (k : κ) : List (κ × ν) → Option ν
  | [] => none
  | e :: es => if e.1 = k then some e.2 else find k es

/-- Replacing the value of a key in place, appending the key when it is new. -/
def assign (k : κ) (v : ν) : List (κ × ν) → List (κ × ν)
  | [] => [(k, v)]
  | e :: es => if e.1 = k then (k, v) :: es else e :: assign k v es

theorem mem_keys_assign {k k' : κ} {v : ν} {es : List (κ × ν)} :
    k' ∈ (assign k v es).map Prod.fst ↔ k' = k ∨ k' ∈ es.map Prod.fst := by
  induction es with
  | nil => simp [assign]
  | cons e es ih =>
      by_cases h : e.1 = k
      · simp [assign, h]
      · simp only [assign, if_neg h, List.map_cons, List.mem_cons, ih]
        tauto

theorem nodup_keys_assign {k : κ} {v : ν} {es : List (κ × ν)}
    (h : (es.map Prod.fst).Nodup) : ((assign k v es).map Prod.fst).Nodup := by
  induction es with
  | nil => simp [assign]
  | cons e es ih =>
      rw [List.map_cons, List.nodup_cons] at h
      by_cases hk : e.1 = k
      · subst hk
        simpa [assign] using h
      · rw [assign, if_neg hk, List.map_cons, List.nodup_cons, mem_keys_assign]
        exact ⟨by simpa [hk] using h.1, ih h.2⟩

theorem find_assign (k k' : κ) (v : ν) (es : List (κ × ν)) :
    find k' (assign k v es) = if k' = k then some v else find k' es := by
  induction es with
  | nil =>
      by_cases h : k' = k
      · simp [assign, find, h]
      · have hne : k ≠ k' := fun h' => h h'.symm
        simp [assign, find, h, hne]
  | cons e es ih =>
      by_cases hk : e.1 = k
      · by_cases h : k' = k
        · simp [assign, find, hk, h]
        · have hne : k ≠ k' := fun h' => h h'.symm
          simp [assign, find, hk, h, hne]
      · by_cases h : e.1 = k'
        · have hne : k' ≠ k := fun h' => hk (h.trans h')
          rw [assign, if_neg hk, if_neg hne, find, find, if_pos h, if_pos h]
        · simp [assign, find, hk, h, ih]

theorem find_eq_none_iff {k : κ} {es : List (κ × ν)} :
    find k es = none ↔ k ∉ es.map Prod.fst := by
  induction es with
  | nil => simp [find]
  | cons e es ih =>
      by_cases h : e.1 = k
      · simp [find, h]
      · have hne : k ≠ e.1 := fun h' => h h'.symm
        rw [find, if_neg h, ih, List.map_cons, List.mem_cons]
        tauto

theorem find_filter (k k' : κ) (es : List (κ × ν)) :
    find k' (es.filter fun e => e.1 ≠ k) = if k' = k then none else find k' es := by
  induction es with
  | nil => simp [find]
  | cons e es ih =>
      by_cases hk : e.1 = k
      · rw [List.filter_cons_of_neg (by simpa using hk), ih]
        by_cases h : k' = k
        · simp [h]
        · have hne : e.1 ≠ k' := fun h' => h (h'.symm.trans hk)
          simp [find, h, hne]
      · rw [List.filter_cons_of_pos (by simpa using hk)]
        by_cases h : e.1 = k'
        · have hne : k' ≠ k := fun h' => hk (h.trans h')
          simp [find, h, hne]
        · simp only [find, if_neg h, ih]

/-- The value stored under a key. -/
def get? (d : Dict κ ν) (k : κ) : Option ν := find k d.entries

/-- `d[k] = v`. -/
def set (d : Dict κ ν) (k : κ) (v : ν) : Dict κ ν :=
  ⟨assign k v d.entries, nodup_keys_assign d.nodup_keys⟩

/-- `d.pop(k, None)`. -/
def erase (d : Dict κ ν) (k : κ) : Dict κ ν :=
  ⟨d.entries.filter fun e => e.1 ≠ k,
    d.nodup_keys.sublist (List.filter_sublist.map Prod.fst)⟩

@[simp] theorem get?_empty (k : κ) : (empty : Dict κ ν).get? k = none := rfl

theorem get?_set (d : Dict κ ν) (k k' : κ) (v : ν) :
    (d.set k v).get? k' = if k' = k then some v else d.get? k' :=
  find_assign k k' v d.entries

@[simp] theorem get?_set_self (d : Dict κ ν) (k : κ) (v : ν) :
    (d.set k v).get? k = some v := by
  rw [get?_set, if_pos rfl]

theorem get?_set_of_ne (d : Dict κ ν) {k k' : κ} (h : k' ≠ k) (v : ν) :
    (d.set k v).get? k' = d.get? k' := by
  rw [get?_set, if_neg h]

theorem get?_erase (d : Dict κ ν) (k k' : κ) :
    (d.erase k).get? k' = if k' = k then none else d.get? k' :=
  find_filter k k' d.entries

@[simp] theorem get?_erase_self (d : Dict κ ν) (k : κ) : (d.erase k).get? k = none := by
  rw [get?_erase, if_pos rfl]

theorem get?_erase_of_ne (d : Dict κ ν) {k k' : κ} (h : k' ≠ k) :
    (d.erase k).get? k' = d.get? k' := by
  rw [get?_erase, if_neg h]

theorem get?_set_eq_update (d : Dict κ ν) (k : κ) (v : ν) :
    (d.set k v).get? = Function.update d.get? k (some v) := by
  funext k'
  rw [get?_set, Function.update_apply]

theorem get?_erase_eq_update (d : Dict κ ν) (k : κ) :
    (d.erase k).get? = Function.update d.get? k none := by
  funext k'
  rw [get?_erase, Function.update_apply]

/-- An assignment keeps the order of the keys; a new key comes last. -/
theorem keys_assign (k : κ) (v : ν) (es : List (κ × ν)) :
    (assign k v es).map Prod.fst =
      if k ∈ es.map Prod.fst then es.map Prod.fst else es.map Prod.fst ++ [k] := by
  induction es with
  | nil => rfl
  | cons e es ih =>
      rw [assign]
      by_cases he : e.1 = k
      · rw [if_pos he, List.map_cons, List.map_cons, if_pos (by rw [he]; exact List.mem_cons_self)]
        rw [he]
      · have hmem : k ∈ (e :: es).map Prod.fst ↔ k ∈ es.map Prod.fst := by
          rw [List.map_cons, List.mem_cons, or_iff_right (Ne.symm he)]
        rw [if_neg he, List.map_cons, ih]
        by_cases hk : k ∈ es.map Prod.fst
        · rw [if_pos hk, if_pos (hmem.2 hk), List.map_cons]
        · rw [if_neg hk, if_neg (mt hmem.1 hk), List.map_cons, List.cons_append]

theorem assign_of_notMem {k : κ} {es : List (κ × ν)} (v : ν)
    (h : k ∉ es.map Prod.fst) : assign k v es = es ++ [(k, v)] := by
  induction es with
  | nil => rfl
  | cons e es ih =>
      rw [List.map_cons, List.mem_cons, not_or] at h
      rw [assign, if_neg (Ne.symm h.1), ih h.2, List.cons_append]

/-- A loop that stores values under keys that are new and distinct. -/
theorem entries_foldl_set {es : List (κ × ν)} {d : Dict κ ν}
    (h : ((d.entries ++ es).map Prod.fst).Nodup) :
    (es.foldl (fun d e => d.set e.1 e.2) d).entries = d.entries ++ es := by
  induction es generalizing d with
  | nil => simp
  | cons e es ih =>
      have hnew : e.1 ∉ d.entries.map Prod.fst := by
        rw [List.map_append, List.nodup_append'] at h
        exact fun hmem => h.2.2 hmem List.mem_cons_self
      have hset : (d.set e.1 e.2).entries = d.entries ++ [e] := assign_of_notMem e.2 hnew
      have hrest : d.entries ++ [e] ++ es = d.entries ++ e :: es := List.append_cons .. |>.symm
      rw [List.foldl_cons, ih (by rwa [hset, hrest]), hset, hrest]

theorem find_eq_some_of_mem {k : κ} {v : ν} {es : List (κ × ν)}
    (hnodup : (es.map Prod.fst).Nodup) (h : (k, v) ∈ es) : find k es = some v := by
  induction es with
  | nil => cases h
  | cons e es ih =>
      rw [List.map_cons, List.nodup_cons] at hnodup
      rcases List.mem_cons.1 h with rfl | h
      · simp [find]
      · have hne : e.1 ≠ k := by
          rintro rfl
          exact hnodup.1 (List.mem_map.2 ⟨(e.1, v), h, rfl⟩)
        rw [find, if_neg hne]
        exact ih hnodup.2 h

theorem mem_of_find_eq_some {k : κ} {v : ν} {es : List (κ × ν)}
    (h : find k es = some v) : (k, v) ∈ es := by
  induction es with
  | nil => cases h
  | cons e es ih =>
      by_cases hk : e.1 = k
      · rw [find, if_pos hk] at h
        cases h
        subst hk
        exact List.mem_cons_self
      · rw [find, if_neg hk] at h
        exact List.mem_cons_of_mem e (ih h)

/-- Iterating over the entries meets exactly the pairs that look-up returns. -/
theorem mem_entries_iff (d : Dict κ ν) (k : κ) (v : ν) :
    (k, v) ∈ d.entries ↔ d.get? k = some v :=
  ⟨find_eq_some_of_mem d.nodup_keys, mem_of_find_eq_some⟩

theorem mem_values_iff (d : Dict κ ν) (v : ν) :
    v ∈ d.values ↔ ∃ k, d.get? k = some v := by
  simp only [values, List.mem_map, Prod.exists, exists_eq_right]
  exact exists_congr fun k => d.mem_entries_iff k v

/-- A loop over the entries that stores a new value for those that have one. -/
theorem get?_foldl_set {g : κ × ν → Option ν} {step : Dict κ ν → κ × ν → Dict κ ν}
    (hsome : ∀ d e v, g e = some v → step d e = d.set e.1 v)
    (hnone : ∀ d e, g e = none → step d e = d) {es : List (κ × ν)}
    (hnodup : (es.map Prod.fst).Nodup) (d : Dict κ ν) (k : κ) :
    (es.foldl step d).get? k = ((find k es).bind fun v => g (k, v)).or (d.get? k) := by
  induction es generalizing d with
  | nil => rfl
  | cons e es ih =>
      rw [List.map_cons, List.nodup_cons] at hnodup
      rw [List.foldl_cons, ih hnodup.2]
      by_cases hk : e.1 = k
      · subst hk
        have hfind : find e.1 es = none := find_eq_none_iff.2 hnodup.1
        rw [hfind, find, if_pos rfl, Option.bind_none, Option.none_or, Option.bind_some]
        cases hg : g e with
        | none => rw [hnone d e hg, Option.none_or]
        | some v => rw [hsome d e v hg, get?_set_self, Option.some_or]
      · have hget : (step d e).get? k = d.get? k := by
          cases hg : g e with
          | none => rw [hnone d e hg]
          | some v => rw [hsome d e v hg, get?_set_of_ne d (Ne.symm hk)]
        rw [hget, find, if_neg hk]

/-- What is stored one after the other, each time under a key of its own: the last one under a
key is found there. -/
theorem get?_foldl_set_map {α : Type*} (key : α → κ) (value : α → ν) (as : List α) (d : Dict κ ν)
    (k : κ) : (as.foldl (fun d a => d.set (key a) (value a)) d).get? k =
      ((as.reverse.find? fun a => key a = k).map value).or (d.get? k) := by
  induction as generalizing d with
  | nil => rfl
  | cons a as ih =>
      rw [List.foldl_cons, ih, List.reverse_cons, List.find?_append, Option.map_or,
        Option.or_assoc, get?_set]
      by_cases hk : k = key a
      · simp [hk]
      · simp [hk, Ne.symm hk]

theorem get?_foldl_set_key (key : ν → κ) (vs : List ν) (d : Dict κ ν) (k : κ) :
    (vs.foldl (fun d v => d.set (key v) v) d).get? k =
      (vs.reverse.find? fun v => key v = k).or (d.get? k) := by
  rw [get?_foldl_set_map key (fun v => v), Option.map_id']

/-- The last entry that is stored under a key has a value exactly if some entry under the key has
it and none with another value follows. -/
theorem map_find?_reverse_eq_some_iff {α : Type*} {p : α → Bool} {value : α → ν} {as : List α}
    {v : ν} : (as.reverse.find? p).map value = some v ↔
      ∃ before a after, as = before ++ a :: after ∧ p a = true ∧ value a = v ∧
        ∀ b ∈ after, p b = true → value b = v := by
  rw [Option.map_eq_some_iff]
  constructor
  · rintro ⟨a, hfind, hvalue⟩
    obtain ⟨ha, before, after, hsplit, hnone⟩ := List.find?_eq_some_iff_append.1 hfind
    refine ⟨after.reverse, a, before.reverse, ?_, ha, hvalue, fun b hb hpb => ?_⟩
    · rw [← List.reverse_inj, hsplit]
      simp
    · have hpb' := hnone b (List.mem_reverse.1 hb)
      rw [hpb] at hpb'
      cases hpb'
  · rintro ⟨before, a, after, rfl, ha, hvalue, hafter⟩
    rw [List.reverse_append, List.reverse_cons, List.append_assoc, List.find?_append]
    cases hfind : after.reverse.find? p with
    | some b =>
        have hb := List.mem_reverse.1 (List.mem_of_find?_eq_some hfind)
        exact ⟨b, rfl, hafter b hb (List.find?_some hfind)⟩
    | none =>
        refine ⟨a, ?_, hvalue⟩
        simp [ha]

end Dict

end Collection
