import Mathlib.Algebra.Order.Floor.Ring
import Mathlib.Data.List.GetD
import Mathlib.Data.List.Sort
import Mathlib.Tactic.Linarith
import Mathlib.Tactic.Ring

/-!
# Percentiles

The percentile of a list of numbers by linear interpolation between its sorted entries. It is a
blend of two entries, so it stays in every interval that holds them all.
-/

namespace Arithmetic

section Percentile

variable {α : Type*} [Field α] [LinearOrder α] [IsStrictOrderedRing α] [FloorRing α]

/-- The blend of two numbers. -/
def lerp (a b t : α) : α := a + t * (b - a)

/-- The place of a percentile among `n` sorted entries. -/
def percentilePlace (q : α) (n : ℕ) : α := (n - 1) * (q / 100)

/-- The percentile of a list; that of no entries is zero. -/
def percentile (q : α) (xs : List α) : α :=
  let values := xs.insertionSort (· ≤ ·)
  let place := percentilePlace q values.length
  let below := values.getD ⌊place⌋.toNat 0
  lerp below (values.getD (⌊place⌋.toNat + 1) below) (place - ⌊place⌋)

variable {a b x y t q : α} {xs : List α} {n : ℕ}

omit [FloorRing α] in
theorem lerp_mem_Icc (hx : x ∈ Set.Icc a b) (hy : y ∈ Set.Icc a b) (ht : 0 ≤ t) (ht1 : t ≤ 1) :
    lerp x y t ∈ Set.Icc a b := by
  have hblend : lerp x y t = (1 - t) * x + t * y := by
    rw [lerp]
    ring
  have hrest : 0 ≤ 1 - t := sub_nonneg.2 ht1
  rw [hblend]
  constructor
  · calc a = (1 - t) * a + t * a := by ring
      _ ≤ (1 - t) * x + t * y :=
        add_le_add (mul_le_mul_of_nonneg_left hx.1 hrest) (mul_le_mul_of_nonneg_left hy.1 ht)
  · calc (1 - t) * x + t * y ≤ (1 - t) * b + t * b :=
        add_le_add (mul_le_mul_of_nonneg_left hx.2 hrest) (mul_le_mul_of_nonneg_left hy.2 ht)
      _ = b := by ring

omit [FloorRing α] in
theorem percentilePlace_nonneg (hq : 0 ≤ q) (hn : 0 < n) : 0 ≤ percentilePlace q n := by
  have hcount : (1 : α) ≤ n := by exact_mod_cast hn
  exact mul_nonneg (sub_nonneg.2 hcount) (div_nonneg hq (by norm_num))

omit [FloorRing α] in
theorem percentilePlace_le (hq : q ≤ 100) (hn : 0 < n) : percentilePlace q n ≤ n - 1 := by
  have hcount : (1 : α) ≤ n := by exact_mod_cast hn
  have hratio : q / 100 ≤ 1 := (div_le_one (by norm_num)).2 hq
  exact mul_le_of_le_one_right (sub_nonneg.2 hcount) hratio

/-- The entry below a percentile is one of the list. -/
theorem floor_percentilePlace_lt (hq : 0 ≤ q) (hq1 : q ≤ 100) (hn : 0 < n) :
    ⌊percentilePlace q n⌋.toNat < n := by
  have hplace : 0 ≤ ⌊percentilePlace q n⌋ := Int.floor_nonneg.2 (percentilePlace_nonneg hq hn)
  have hbelow : ⌊percentilePlace q n⌋ < (n : ℤ) := by
    rw [Int.floor_lt]
    have hle := percentilePlace_le hq1 hn
    push_cast
    linarith
  omega

/-- A percentile stays in an interval that holds all entries. -/
theorem percentile_mem_Icc (hq : 0 ≤ q) (hq1 : q ≤ 100) (hne : xs ≠ [])
    (h : ∀ x ∈ xs, x ∈ Set.Icc a b) : percentile q xs ∈ Set.Icc a b := by
  have hsorted : ∀ x ∈ xs.insertionSort (· ≤ ·), x ∈ Set.Icc a b := fun x hx =>
    h x ((List.perm_insertionSort _ xs).mem_iff.1 hx)
  have hpos : 0 < (xs.insertionSort (· ≤ ·)).length := by
    rw [List.length_insertionSort]
    exact List.length_pos_iff.2 hne
  have hplace := floor_percentilePlace_lt hq hq1 hpos
  have hbelow : (xs.insertionSort (· ≤ ·)).getD
      ⌊percentilePlace q (xs.insertionSort (· ≤ ·)).length⌋.toNat 0 ∈ Set.Icc a b := by
    rw [List.getD_eq_getElem _ _ hplace]
    exact hsorted _ (List.getElem_mem hplace)
  have hfract : 0 ≤ percentilePlace q (xs.insertionSort (· ≤ ·)).length -
      ⌊percentilePlace q (xs.insertionSort (· ≤ ·)).length⌋ := Int.fract_nonneg _
  have hfract1 : percentilePlace q (xs.insertionSort (· ≤ ·)).length -
      ⌊percentilePlace q (xs.insertionSort (· ≤ ·)).length⌋ ≤ 1 := (Int.fract_lt_one _).le
  refine lerp_mem_Icc hbelow ?_ hfract hfract1
  by_cases hnext : ⌊percentilePlace q (xs.insertionSort (· ≤ ·)).length⌋.toNat + 1 <
      (xs.insertionSort (· ≤ ·)).length
  · rw [List.getD_eq_getElem _ _ hnext]
    exact hsorted _ (List.getElem_mem hnext)
  · rw [List.getD_eq_default _ _ (not_lt.1 hnext)]
    exact hbelow

/-- The percentiles of equal entries are these entries. -/
theorem percentile_of_forall_eq (hq : 0 ≤ q) (hq1 : q ≤ 100) (hne : xs ≠ [])
    (h : ∀ x ∈ xs, x = a) : percentile q xs = a := by
  have hmem := percentile_mem_Icc hq hq1 hne fun x hx => Set.mem_Icc.2 ⟨(h x hx).ge, (h x hx).le⟩
  exact le_antisymm hmem.2 hmem.1

end Percentile

end Arithmetic
