import Mathlib.Algebra.Order.Group.Abs
import Mathlib.Algebra.Order.Group.Unbundled.Abs
import Mathlib.Tactic.Linarith

/-!
# Netting with a single slot

A slot holds one signed amount. `bookNet` books an entry the way a one-position
ledger does: into an empty slot it goes as it is, on the same side it is dropped, and
on the other side it reduces the slot, at most to zero. `Fits` says when that is the
exact sum.
-/

namespace Accounting

variable {α : Type*} [AddCommGroup α] [LinearOrder α] [IsOrderedAddMonoid α]

/-- The two amounts lie on different sides of zero. -/
def OppositeSigns (h q : α) : Prop := (0 < h ∧ q < 0) ∨ (h < 0 ∧ 0 < q)

instance (h q : α) : Decidable (OppositeSigns h q) :=
  inferInstanceAs (Decidable (_ ∨ _))

/-- Booking `q` into a slot that holds `h`. -/
def bookNet (h q : α) : α :=
  if h = 0 then q else if OppositeSigns h q then (if |h| ≤ |q| then 0 else h + q) else h

/-- The entry `q` opens an empty slot or reduces the slot by at most what it holds. -/
def Fits (h q : α) : Prop := h = 0 ∨ (OppositeSigns h q ∧ |q| ≤ |h|)

instance (h q : α) : Decidable (Fits h q) := inferInstanceAs (Decidable (_ ∨ _))

omit [IsOrderedAddMonoid α] in
@[simp] theorem bookNet_zero (q : α) : bookNet 0 q = q := if_pos rfl

/-- The amount `h'` lies between zero and `h`. -/
def Shrinks (h h' : α) : Prop := (0 ≤ h' ∧ h' ≤ h) ∨ (h ≤ h' ∧ h' ≤ 0)

instance (h h' : α) : Decidable (Shrinks h h') := inferInstanceAs (Decidable (_ ∨ _))

omit [IsOrderedAddMonoid α] in
theorem Shrinks.refl (h : α) : Shrinks h h :=
  (le_total 0 h).imp (fun hpos => ⟨hpos, le_rfl⟩) fun hneg => ⟨le_rfl, hneg⟩

omit [IsOrderedAddMonoid α] in
theorem shrinks_zero (h : α) : Shrinks h 0 :=
  (le_total 0 h).imp (fun hpos => ⟨le_rfl, hpos⟩) fun hneg => ⟨hneg, le_rfl⟩

/-- Entries on different sides that cancel have the same size. -/
theorem add_eq_zero_iff_of_oppositeSigns {h q : α} (hopp : OppositeSigns h q) :
    h + q = 0 ↔ |h| = |q| := by
  rcases hopp with ⟨hh, hq⟩ | ⟨hh, hq⟩
  · rw [abs_of_pos hh, abs_of_neg hq, add_eq_zero_iff_eq_neg]
  · rw [abs_of_neg hh, abs_of_pos hq, add_eq_zero_iff_neg_eq]

/-- Booking a nonzero entry is addition exactly when the entry fits. -/
theorem bookNet_eq_add_iff {h q : α} (hq : q ≠ 0) :
    bookNet h q = h + q ↔ Fits h q := by
  unfold bookNet Fits
  by_cases hh : h = 0
  · simp [hh]
  · rw [if_neg hh]
    by_cases hopp : OppositeSigns h q
    · rw [if_pos hopp]
      by_cases hle : |h| ≤ |q|
      · rw [if_pos hle, eq_comm, add_eq_zero_iff_of_oppositeSigns hopp]
        constructor
        · intro heq
          exact .inr ⟨hopp, heq.ge⟩
        · rintro (h0 | ⟨-, hge⟩)
          · exact absurd h0 hh
          · exact le_antisymm hle hge
      · rw [if_neg hle]
        exact iff_of_true rfl (.inr ⟨hopp, (not_le.1 hle).le⟩)
    · rw [if_neg hopp]
      refine iff_of_false (fun heq => hq ?_) ?_
      · exact left_eq_add.1 heq
      · rintro (h0 | ⟨h', -⟩)
        · exact hh h0
        · exact hopp h'

end Accounting
