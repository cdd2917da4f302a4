import Mathlib.Algebra.BigOperators.Group.List.Basic
import Mathlib.Tactic.Abel
import Sgr.Collection.Dict

/-!
# Totals of a dictionary

The total of a dictionary is the sum of a quantity over its values. Storing or deleting
one entry changes the total by what that entry contributes, and a map over the values
can be moved into the quantity.
-/

namespace Collection

namespace Dict

variable {κ ν α : Type*}

/-- The sum of a quantity over the values. -/
def total [AddMonoid α] (φ : ν → α) (d : Dict κ ν) : α := (d.values.map φ).sum

@[simp] theorem total_empty [AddMonoid α] (φ : ν → α) :
    (empty : Dict κ ν).total φ = 0 := rfl

theorem total_eq_sum [AddMonoid α] (φ : ν → α) (d : Dict κ ν) :
    d.total φ = (d.entries.map fun e => φ e.2).sum := by
  rw [total, values, List.map_map]
  rfl

variable [DecidableEq κ] [AddCommMonoid α]

/-- What a key contributes to the total. -/
def contribution (φ : ν → α) (d : Dict κ ν) (k : κ) : α := ((d.get? k).map φ).getD 0

theorem contribution_of_get? {φ : ν → α} {d : Dict κ ν} {k : κ} {v : ν}
    (h : d.get? k = some v) : d.contribution φ k = φ v := by
  rw [contribution, h]
  rfl

theorem contribution_of_none {φ : ν → α} {d : Dict κ ν} {k : κ}
    (h : d.get? k = none) : d.contribution φ k = 0 := by
  rw [contribution, h]
  rfl

theorem sum_assign (φ : ν → α) (k : κ) (v : ν) (es : List (κ × ν)) :
    ((assign k v es).map fun e => φ e.2).sum + ((find k es).map φ).getD 0 =
      (es.map fun e => φ e.2).sum + φ v := by
  induction es with
  | nil => simp [assign, find]
  | cons e es ih =>
      by_cases hk : e.1 = k
      · simp only [assign, if_pos hk, find, Option.map_some, Option.getD_some, List.map_cons,
          List.sum_cons]
        abel
      · simp only [assign, if_neg hk, find, List.map_cons, List.sum_cons, add_assoc, ih]

theorem sum_filter_ne (φ : ν → α) (k : κ) {es : List (κ × ν)}
    (h : (es.map Prod.fst).Nodup) :
    ((es.filter fun e => e.1 ≠ k).map fun e => φ e.2).sum + ((find k es).map φ).getD 0 =
      (es.map fun e => φ e.2).sum := by
  induction es with
  | nil => simp [find]
  | cons e es ih =>
      rw [List.map_cons, List.nodup_cons] at h
      by_cases hk : e.1 = k
      · -- the key does not occur in the rest, so the filter keeps all of it
        have hrest : find k es = none := find_eq_none_iff.2 (hk ▸ h.1)
        have hkeep := ih h.2
        rw [hrest, Option.map_none, Option.getD_none, add_zero] at hkeep
        rw [List.filter_cons_of_neg (by simpa using hk), hkeep, find, if_pos hk,
          Option.map_some, Option.getD_some, List.map_cons, List.sum_cons, add_comm]
      · rw [List.filter_cons_of_pos (by simpa using hk), find, if_neg hk]
        simp only [List.map_cons, List.sum_cons, add_assoc, ih h.2]

/-- Storing a value replaces what its key contributes. -/
theorem total_set (φ : ν → α) (d : Dict κ ν) (k : κ) (v : ν) :
    (d.set k v).total φ + d.contribution φ k = d.total φ + φ v := by
  rw [total_eq_sum, total_eq_sum]
  exact sum_assign φ k v d.entries

/-- Deleting a key takes away what it contributes. -/
theorem total_erase (φ : ν → α) (d : Dict κ ν) (k : κ) :
    (d.erase k).total φ + d.contribution φ k = d.total φ := by
  rw [total_eq_sum, total_eq_sum]
  exact sum_filter_ne φ k d.nodup_keys

/-- A dictionary whose look-ups are those of another one, mapped by `f`, has its totals
from there. -/
theorem total_eq_of_get? {φ : ν → α} {f : ν → ν} {d d' : Dict κ ν}
    (h : ∀ k, d'.get? k = (d.get? k).map f) : d'.total φ = d.total fun v => φ (f v) := by
  have hmap : ((d.entries.map fun e => (e.1, f e.2)).map Prod.fst).Nodup := by
    simpa [List.map_map, Function.comp_def] using d.nodup_keys
  have hperm : d'.entries.Perm (d.entries.map fun e => (e.1, f e.2)) := by
    rw [List.perm_ext_iff_of_nodup (List.Nodup.of_map _ d'.nodup_keys)
      (List.Nodup.of_map _ hmap)]
    rintro ⟨k, v⟩
    rw [mem_entries_iff, h k, Option.map_eq_some_iff]
    simp [mem_entries_iff]
  rw [total_eq_sum, total_eq_sum, (hperm.map fun e => φ e.2).sum_eq, List.map_map]
  rfl

/-- Writing one slot replaces what its key contributes. -/
theorem total_of_slot {φ : ν → α} {d d' : Dict κ ν} {k : κ} {v : Option ν}
    (h : ∀ k', d'.get? k' = if k' = k then v else d.get? k') :
    d'.total φ + d.contribution φ k = d.total φ + (v.map φ).getD 0 := by
  cases v with
  | none =>
      have heq : d'.total φ = (d.erase k).total φ :=
        total_eq_of_get? fun k' => by rw [h k', get?_erase, Option.map_id']
      rw [heq, total_erase]
      exact (add_zero _).symm
  | some v =>
      have heq : d'.total φ = (d.set k v).total φ :=
        total_eq_of_get? fun k' => by rw [h k', get?_set, Option.map_id']
      rw [heq, total_set]
      rfl

end Dict

end Collection
