import Mathlib.Algebra.Order.Group.Int
import Mathlib.Data.Finset.Card
import Mathlib.Data.Finset.Range
import Mathlib.Data.List.Basic
import Mathlib.Tactic.Ring

/-!
# Slots of a grid

A grid has a line every `step`, from an origin on. A value that deviates from a line by less than
half a step lies in the slot of that line. Of a list of slots in ascending order the absent ones
are those between the first and the last that do not occur; they are counted from neighbour to
neighbour.
-/

namespace Collection

/-! ### Absent slots -/

/-- The slots between two. -/
def between (k k' : ℤ) : Finset ℤ :=
  (Finset.range (k' - k - 1).toNat).image fun i : ℕ => k + 1 + (i : ℤ)

/-- The number of slots between the first and the last of a list that are not in it. -/
def absentSlots : List ℤ → ℕ
  | [] => 0
  | k :: ks => ((between k (ks.getLastD k)).filter fun x => x ∉ k :: ks).card

/-- A figure of two neighbours, summed over a list. -/
def sumNeighbours {α : Type*} (figure : α → α → ℕ) : List α → ℕ
  | [] => 0
  | [_] => 0
  | x :: y :: rest => figure x y + sumNeighbours figure (y :: rest)

/-- The number of slots between two. -/
def slotsBetween (k k' : ℤ) : ℕ := (k' - k - 1).toNat

@[simp] theorem mem_between {k k' x : ℤ} : x ∈ between k k' ↔ k < x ∧ x < k' := by
  simp only [between, Finset.mem_image, Finset.mem_range]
  constructor
  · rintro ⟨i, hi, rfl⟩
    omega
  · rintro ⟨hlow, hhigh⟩
    exact ⟨(x - k - 1).toNat, by omega, by omega⟩

theorem card_between (k k' : ℤ) : (between k k').card = slotsBetween k k' := by
  rw [between, Finset.card_image_of_injective _ fun i j hij => by simpa using hij,
    Finset.card_range, slotsBetween]

theorem le_getLastD {k : ℤ} {ks : List ℤ} (h : (k :: ks).Pairwise (· ≤ ·)) :
    k ≤ ks.getLastD k := by
  cases ks with
  | nil => simp
  | cons k' ks =>
      rw [List.getLastD_eq_getLast?, List.getLast?_eq_getLast_of_ne_nil (List.cons_ne_nil k' ks),
        Option.getD_some]
      exact (List.pairwise_cons.1 h).1 _ (List.getLast_mem _)

/-- The absent slots after the first are those before its neighbour and those after it. -/
theorem absentSlots_cons_cons {k k' : ℤ} {ks : List ℤ} (h : (k :: k' :: ks).Pairwise (· ≤ ·)) :
    absentSlots (k :: k' :: ks) = slotsBetween k k' + absentSlots (k' :: ks) := by
  obtain ⟨hfirst, hrest⟩ := List.pairwise_cons.1 h
  have hle : k ≤ k' := hfirst k' List.mem_cons_self
  have hlast : k' ≤ ks.getLastD k' := le_getLastD hrest
  have hks : ∀ x ∈ ks, k' ≤ x := (List.pairwise_cons.1 hrest).1
  have hsplit : (between k (ks.getLastD k')).filter (fun x => x ∉ k :: k' :: ks) =
      between k k' ∪ (between k' (ks.getLastD k')).filter fun x => x ∉ k' :: ks := by
    ext x
    simp only [Finset.mem_filter, Finset.mem_union, mem_between, List.mem_cons, not_or]
    constructor
    · rintro ⟨⟨hlow, hhigh⟩, -, hne, hmem⟩
      rcases lt_or_gt_of_ne hne with hlt | hgt
      · exact .inl ⟨hlow, hlt⟩
      · exact .inr ⟨⟨hgt, hhigh⟩, hne, hmem⟩
    · rintro (⟨hlow, hhigh⟩ | ⟨⟨hlow, hhigh⟩, hne, hmem⟩)
      · refine ⟨⟨hlow, hhigh.trans_le hlast⟩, hlow.ne', hhigh.ne, fun hmem => ?_⟩
        exact absurd (hks x hmem) hhigh.not_ge
      · exact ⟨⟨hle.trans_lt hlow, hhigh⟩, (hle.trans_lt hlow).ne', hne, hmem⟩
  have hdisjoint : Disjoint (between k k')
      ((between k' (ks.getLastD k')).filter fun x => x ∉ k' :: ks) := by
    refine Finset.disjoint_left.2 fun x hx hx' => ?_
    have hlt := (mem_between.1 hx).2
    have hgt := (mem_between.1 (Finset.mem_filter.1 hx').1).1
    exact absurd hlt hgt.not_gt
  rw [absentSlots, List.getLastD_cons, hsplit, Finset.card_union_of_disjoint hdisjoint,
    card_between, absentSlots]

theorem absentSlots_eq_sumNeighbours {ks : List ℤ} (h : ks.Pairwise (· ≤ ·)) :
    absentSlots ks = sumNeighbours slotsBetween ks := by
  induction ks with
  | nil => rfl
  | cons k ks ih =>
      cases ks with
      | nil =>
          have hnone : between k k = ∅ :=
            Finset.card_eq_zero.1 (by simp [card_between, slotsBetween])
          simp [absentSlots, sumNeighbours, hnone]
      | cons k' ks =>
          rw [absentSlots_cons_cons h, ih (List.pairwise_cons.1 h).2, sumNeighbours]

theorem sumNeighbours_map {α β : Type*} (f : α → β) (figure : β → β → ℕ) (xs : List α) :
    sumNeighbours figure (xs.map f) = sumNeighbours (fun x y => figure (f x) (f y)) xs := by
  induction xs with
  | nil => rfl
  | cons x xs ih =>
      cases xs with
      | nil => rfl
      | cons y xs =>
          rw [List.map_cons, List.map_cons, sumNeighbours, sumNeighbours, ← ih, List.map_cons]

theorem sumNeighbours_le {α : Type*} {figure figure' : α → α → ℕ} {xs : List α}
    (h : xs.IsChain fun x y => figure x y ≤ figure' x y) :
    sumNeighbours figure xs ≤ sumNeighbours figure' xs := by
  induction xs with
  | nil => exact le_rfl
  | cons x xs ih =>
      cases xs with
      | nil => exact le_rfl
      | cons y xs =>
          obtain ⟨hxy, hrest⟩ := List.isChain_cons_cons.1 h
          exact add_le_add hxy (ih hrest)

/-- A figure that is never above another, and is the same under a condition, has the same sum
exactly if all neighbours meet the condition. -/
theorem sumNeighbours_eq_iff {α : Type*} {figure figure' : α → α → ℕ} {p : α → α → Prop}
    {xs : List α} (h : xs.IsChain fun x y =>
      figure x y ≤ figure' x y ∧ (figure x y = figure' x y ↔ p x y)) :
    sumNeighbours figure xs = sumNeighbours figure' xs ↔ xs.IsChain p := by
  induction xs with
  | nil => simp [sumNeighbours]
  | cons x xs ih =>
      cases xs with
      | nil => simp [sumNeighbours]
      | cons y xs =>
          obtain ⟨⟨hle, hxy⟩, hrest⟩ := List.isChain_cons_cons.1 h
          have hsum := sumNeighbours_le (hrest.imp fun _ _ hpair => hpair.1)
          have htail := ih hrest
          rw [List.isChain_cons_cons, ← hxy, sumNeighbours, sumNeighbours]
          constructor
          · intro heq
            exact ⟨by omega, htail.1 (by omega)⟩
          · rintro ⟨heq, hchain⟩
            rw [heq, htail.2 hchain]

/-! ### The slot of a value -/

/-- The line that a value is nearest to. -/
def slotOf (origin step t : ℤ) : ℤ := (2 * (t - origin) + step) / (2 * step)

/-- What a value deviates by from the line of its slot. -/
def offsetOf (origin step t : ℤ) : ℤ := t - (origin + slotOf origin step t * step)

section Slot

variable {origin step t u : ℤ}

theorem eq_add_offsetOf (origin step t : ℤ) :
    t = origin + slotOf origin step t * step + offsetOf origin step t := by
  rw [offsetOf]
  ring

theorem slotOf_mono (hstep : 0 < step) (h : t ≤ u) : slotOf origin step t ≤ slotOf origin step u :=
  Int.ediv_le_ediv (by omega) (by omega)

/-- A value that deviates from a line by less than half a step is in its slot. -/
theorem slotOf_eq (hstep : 0 < step) {k : ℤ} (h : 2 * |t - (origin + k * step)| < step) :
    slotOf origin step t = k := by
  have hlow := neg_abs_le (t - (origin + k * step))
  have hhigh := le_abs_self (t - (origin + k * step))
  have hsplit : 2 * (t - origin) + step =
      (2 * (t - (origin + k * step)) + step) + k * (2 * step) := by ring
  rw [slotOf, hsplit, Int.add_mul_ediv_right _ _ (by omega), Int.ediv_eq_zero_of_lt, zero_add]
  · omega
  · omega

end Slot

end Collection
