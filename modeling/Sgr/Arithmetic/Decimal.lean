import Mathlib.Algebra.Order.Floor.Ring
import Mathlib.Order.Bounds.Basic
import Mathlib.Data.Rat.Floor
import Mathlib.Tactic.Linarith
import Mathlib.Tactic.Positivity
import Mathlib.Tactic.Ring

/-!
# Decimal rounding

Rounding to the nearest integer with ties to the even one, rounding to a number of decimal
places in a given precision, and the text of a number with a fixed number of places.
-/

namespace Arithmetic

section Least

variable {α : Type*} [LinearOrder α]

/-- The least of a first element and further ones. -/
theorem isLeast_foldl_min (a : α) (as : List α) :
    IsLeast {b | b ∈ a :: as} (as.foldl min a) := by
  induction as generalizing a with
  | nil => simp
  | cons b as ih =>
      obtain ⟨hmem, hle⟩ := ih (min a b)
      rw [List.foldl_cons]
      constructor
      · rcases List.mem_cons.1 hmem with heq | hrest
        · rw [heq]
          rcases min_choice a b with h | h
          · simp [h]
          · simp [h]
        · exact List.mem_cons_of_mem a (List.mem_cons_of_mem b hrest)
      · have hfirst : as.foldl min (min a b) ≤ min a b := hle List.mem_cons_self
        intro c hc
        rcases List.mem_cons.1 hc with rfl | hc
        · exact hfirst.trans (min_le_left c b)
        · rcases List.mem_cons.1 hc with rfl | hc
          · exact hfirst.trans (min_le_right a c)
          · exact hle (List.mem_cons_of_mem _ hc)

/-- What is kept upwards holds of the least bound exactly when it holds of all. -/
theorem least_iff_forall {s : Set α} {a : α} {φ : α → Prop} (h : IsLeast s a)
    (hφ : ∀ b c, b ≤ c → φ b → φ c) : φ a ↔ ∀ b ∈ s, φ b :=
  ⟨fun ha b hb => hφ a b (h.2 hb) ha, fun hall => hall a h.1⟩

/-- What is kept downwards holds of the least bound exactly when it holds of one. -/
theorem least_iff_exists {s : Set α} {a : α} {φ : α → Prop} (h : IsLeast s a)
    (hφ : ∀ b c, b ≤ c → φ c → φ b) : φ a ↔ ∃ b ∈ s, φ b :=
  ⟨fun ha => ⟨a, h.1, ha⟩, fun ⟨b, hb, hφb⟩ => hφ a b (h.2 hb) hφb⟩

end Least

/-- The nearest integer; of two nearest integers the even one. -/
def roundHalfEven (x : ℚ) : ℤ :=
  if x - ⌊x⌋ < 1 / 2 then ⌊x⌋
  else if 1 / 2 < x - ⌊x⌋ then ⌊x⌋ + 1
  else if ⌊x⌋ % 2 = 0 then ⌊x⌋ else ⌊x⌋ + 1

/-- Rounding to `places` decimal places. -/
def quantized (places : ℕ) (x : ℚ) : ℚ := roundHalfEven (x * 10 ^ places) / 10 ^ places

/-- The nearest integer; of two nearest integers the one away from zero. -/
def roundHalfUp (x : ℚ) : ℤ := if 0 ≤ x then ⌊x + 1 / 2⌋ else -⌊-x + 1 / 2⌋

/-- Rounding to `places` decimal places, ties away from zero. -/
def roundedHalfUp (places : ℕ) (x : ℚ) : ℚ := roundHalfUp (x * 10 ^ places) / 10 ^ places

/-- Rounding to `places` decimal places; `none` when the result has more than `precision`
digits. -/
def quantize (places precision : ℕ) (x : ℚ) : Option ℚ :=
  if (roundHalfEven (x * 10 ^ places)).natAbs < 10 ^ precision then some (quantized places x)
  else none

/-- The text of a number with `places` decimal places. -/
def fixedText (places : ℕ) (x : ℚ) : String :=
  let n := (roundHalfEven (x * 10 ^ places)).natAbs
  let fraction := toString (n % 10 ^ places)
  (if x < 0 then "-" else "") ++ toString (n / 10 ^ places) ++
    if places = 0 then ""
    else "." ++ "".pushn '0' (places - fraction.length) ++ fraction

/-- The text of a fraction in percent. -/
def percentText (places : ℕ) (x : ℚ) : String := fixedText places (x * 100) ++ "%"

section Rounding

variable {x y : ℚ} {n : ℤ}

theorem floor_le_roundHalfEven (x : ℚ) : ⌊x⌋ ≤ roundHalfEven x := by
  unfold roundHalfEven
  split_ifs <;> omega

theorem roundHalfEven_le_floor_add_one (x : ℚ) : roundHalfEven x ≤ ⌊x⌋ + 1 := by
  unfold roundHalfEven
  split_ifs <;> omega

/-- Below an even integer stays what is more than a half below it. -/
theorem roundHalfEven_lt_iff (hn : n % 2 = 0) : roundHalfEven x < n ↔ x < n - 1 / 2 := by
  have hle := Int.floor_le x
  have hlt := Int.lt_floor_add_one x
  rcases lt_trichotomy (⌊x⌋ + 1) n with hbelow | hnext | habove
  · have hcast : (⌊x⌋ : ℚ) + 1 + 1 ≤ n := by exact_mod_cast hbelow
    have hround := roundHalfEven_le_floor_add_one x
    exact iff_of_true (by omega) (by linarith)
  · have hcast : (⌊x⌋ : ℚ) + 1 = n := by exact_mod_cast hnext
    have hodd : ¬ ⌊x⌋ % 2 = 0 := by omega
    unfold roundHalfEven
    rw [if_neg hodd]
    split
    next hsmall => exact iff_of_true (by omega) (by linarith)
    next hlarge =>
      rw [ite_self]
      exact iff_of_false (by omega) (by linarith)
  · have hcast : (n : ℚ) < ⌊x⌋ + 1 := by exact_mod_cast habove
    have hround := floor_le_roundHalfEven x
    have hfloor : (n : ℚ) ≤ ⌊x⌋ := by exact_mod_cast (by omega : n ≤ ⌊x⌋)
    exact iff_of_false (by omega) (by linarith)

/-- At most an even integer stays what is at most a half above it. -/
theorem roundHalfEven_le_iff (hn : n % 2 = 0) : roundHalfEven x ≤ n ↔ x ≤ n + 1 / 2 := by
  have hle := Int.floor_le x
  have hlt := Int.lt_floor_add_one x
  rcases lt_trichotomy ⌊x⌋ n with hbelow | hsame | habove
  · have hcast : (⌊x⌋ : ℚ) + 1 ≤ n := by exact_mod_cast hbelow
    have hround := roundHalfEven_le_floor_add_one x
    exact iff_of_true (by omega) (by linarith)
  · have hcast : (⌊x⌋ : ℚ) = n := by exact_mod_cast hsame
    have heven : ⌊x⌋ % 2 = 0 := by omega
    unfold roundHalfEven
    rw [if_pos heven]
    split
    next hsmall => exact iff_of_true (by omega) (by linarith)
    next hlarge =>
      split
      next hmore => exact iff_of_false (by omega) (by linarith)
      next hhalf => exact iff_of_true (by omega) (by linarith)
  · have hcast : (n : ℚ) + 1 ≤ ⌊x⌋ := by exact_mod_cast habove
    have hround := floor_le_roundHalfEven x
    exact iff_of_false (by omega) (by linarith)

theorem roundHalfEven_mono (h : x ≤ y) : roundHalfEven x ≤ roundHalfEven y := by
  rcases (Int.floor_le_floor h).lt_or_eq with hlt | heq
  · have hx := roundHalfEven_le_floor_add_one x
    have hy := floor_le_roundHalfEven y
    omega
  · unfold roundHalfEven
    rw [heq]
    split_ifs <;> first | omega | linarith

theorem roundHalfEven_pos_iff : 0 < roundHalfEven x ↔ 1 / 2 < x := by
  rw [← not_le, roundHalfEven_le_iff rfl, not_le]
  norm_num

theorem roundHalfEven_nonneg (h : 0 ≤ x) : 0 ≤ roundHalfEven x :=
  (Int.floor_nonneg.2 h).trans (floor_le_roundHalfEven x)

/-- Below a positive integer stays what is more than a half below it. -/
theorem roundHalfUp_lt_iff (hn : 0 < n) : roundHalfUp x < n ↔ x < n - 1 / 2 := by
  unfold roundHalfUp
  split
  next => rw [Int.floor_lt, lt_sub_iff_add_lt]
  next hneg =>
    have hx : x < 0 := not_le.1 hneg
    have hfloor : 0 ≤ ⌊-x + 1 / 2⌋ := Int.floor_nonneg.2 (by linarith)
    have hn' : (1 : ℚ) ≤ n := by exact_mod_cast hn
    constructor
    · intro _
      linarith
    · intro _
      omega

theorem roundedHalfUp_lt_iff {m : ℤ} (hm : 0 < m) {places : ℕ} :
    roundedHalfUp places x < m / 10 ^ places ↔ x < (m - 1 / 2) / 10 ^ places := by
  have hpos : (0 : ℚ) < 10 ^ places := by positivity
  rw [roundedHalfUp, div_lt_div_iff_of_pos_right hpos, Int.cast_lt, roundHalfUp_lt_iff hm,
    lt_div_iff₀ hpos]

end Rounding

section Quantize

variable {places precision : ℕ} {x y : ℚ}

theorem quantized_mono (h : x ≤ y) : quantized places x ≤ quantized places y := by
  have hround : roundHalfEven (x * 10 ^ places) ≤ roundHalfEven (y * 10 ^ places) :=
    roundHalfEven_mono (mul_le_mul_of_nonneg_right h (by positivity))
  exact div_le_div_of_nonneg_right (by exact_mod_cast hround) (by positivity)

theorem quantized_pos_iff : 0 < quantized places x ↔ 1 / 2 < x * 10 ^ places := by
  rw [quantized, div_pos_iff_of_pos_right (by positivity), Int.cast_pos, roundHalfEven_pos_iff]

theorem quantized_neg_iff : quantized places x < 0 ↔ x * 10 ^ places < -(1 / 2) := by
  have hround : roundHalfEven (x * 10 ^ places) < 0 ↔ x * 10 ^ places < (0 : ℤ) - 1 / 2 :=
    roundHalfEven_lt_iff rfl
  rw [quantized, div_lt_iff₀ (by positivity), zero_mul, Int.cast_lt_zero, hround, Int.cast_zero,
    zero_sub]

/-- What is greater than half a unit of the last place is not rounded away. -/
theorem quantized_ne_zero (h : 1 / 2 < |x| * 10 ^ places) : quantized places x ≠ 0 := by
  rcases abs_cases x with ⟨habs, -⟩ | ⟨habs, -⟩
  · rw [habs] at h
    exact (quantized_pos_iff.2 h).ne'
  · rw [habs, neg_mul] at h
    exact (quantized_neg_iff.2 (by linarith)).ne

/-- A number that is not negative is rounded when it is less than half a unit of its last
place below the first number with too many digits. -/
theorem quantize_of_nonneg (hx : 0 ≤ x) (hprecision : precision ≠ 0) :
    quantize places precision x =
      if x * 10 ^ places < 10 ^ precision - 1 / 2 then some (quantized places x) else none := by
  have hround : 0 ≤ roundHalfEven (x * 10 ^ places) := roundHalfEven_nonneg (by positivity)
  have heven : (10 ^ precision : ℤ) % 2 = 0 := by
    rw [← Int.even_iff, Int.even_pow]
    exact ⟨by decide, hprecision⟩
  have hdigits : (roundHalfEven (x * 10 ^ places)).natAbs < 10 ^ precision ↔
      roundHalfEven (x * 10 ^ places) < 10 ^ precision := by
    zify
    rw [abs_of_nonneg hround]
  have hlt := roundHalfEven_lt_iff (x := x * 10 ^ places) heven
  push_cast at hlt
  rw [quantize]
  simp only [hdigits, hlt]

end Quantize

section Multiples

variable {x s : ℚ}

/-- A number that is rounded down to a multiple of `s` comes to a multiple of a coarser step
when it is less than `s` above one. -/
theorem floor_mul_multiple_iff (hs : 0 < s) (m : ℤ) :
    (∃ k : ℤ, (⌊x / s⌋ : ℚ) * s = k * (m * s)) ↔
      ∃ k : ℤ, k * (m * s) ≤ x ∧ x < k * (m * s) + s := by
  constructor
  · rintro ⟨k, hk⟩
    have hle := (le_div_iff₀ hs).1 (Int.floor_le (x / s))
    have hlt := (div_lt_iff₀ hs).1 (Int.lt_floor_add_one (x / s))
    exact ⟨k, by linarith, by linarith⟩
  · rintro ⟨k, hle, hlt⟩
    have hfloor : ⌊x / s⌋ = k * m := by
      rw [Int.floor_eq_iff, le_div_iff₀ hs, div_lt_iff₀ hs]
      push_cast
      exact ⟨by linarith, by linarith⟩
    refine ⟨k, ?_⟩
    rw [hfloor]
    push_cast
    ring

/-- A number that is rounded up to a multiple of `s` comes to a multiple of a coarser step when
it is less than `s` below one. -/
theorem ceil_mul_multiple_iff (hs : 0 < s) (m : ℤ) :
    (∃ k : ℤ, (⌈x / s⌉ : ℚ) * s = k * (m * s)) ↔
      ∃ k : ℤ, k * (m * s) - s < x ∧ x ≤ k * (m * s) := by
  constructor
  · rintro ⟨k, hk⟩
    have hle := (div_le_iff₀ hs).1 (Int.le_ceil (x / s))
    have hlt := (lt_div_iff₀ hs).1 (sub_lt_iff_lt_add.2 (Int.ceil_lt_add_one (x / s)))
    exact ⟨k, by linarith, by linarith⟩
  · rintro ⟨k, hlt, hle⟩
    have hceil : ⌈x / s⌉ = k * m := by
      rw [Int.ceil_eq_iff, lt_div_iff₀ hs, div_le_iff₀ hs]
      push_cast
      exact ⟨by linarith, by linarith⟩
    refine ⟨k, ?_⟩
    rw [hceil]
    push_cast
    ring

end Multiples

end Arithmetic
