import Mathlib.Algebra.Order.BigOperators.Group.List
import Mathlib.Data.List.Perm.Subperm
import Mathlib.Logic.Function.Basic

/-!
# Vouchers that are redeemed at most once

A voucher is issued once, is held by at most one holder at a time and is redeemed by the
one who holds it. A voucher that nobody holds and that has not been redeemed can be taken
over. No voucher is then redeemed twice, so what is redeemed does not exceed what was
issued.
-/

namespace Accounting

variable {ι ν : Type*} [DecidableEq ι]

/-- The vouchers issued so far, what each holder holds, and the redeemed ones. -/
structure Vouchers (ι ν : Type*) where
  issued : List ν
  held : ι → Option ν
  redeemed : List ν

namespace Vouchers

/-- Nothing is issued yet. -/
def init : Vouchers ι ν := ⟨[], fun _ => none, []⟩

/-- The bookkeeping of the vouchers. -/
structure Sound (V : Vouchers ι ν) : Prop where
  issued_nodup : V.issued.Nodup
  redeemed_nodup : V.redeemed.Nodup
  redeemed_issued : ∀ v ∈ V.redeemed, v ∈ V.issued
  held_issued : ∀ i v, V.held i = some v → v ∈ V.issued
  held_fresh : ∀ i v, V.held i = some v → v ∉ V.redeemed
  held_inj : ∀ i j v, V.held i = some v → V.held j = some v → i = j

omit [DecidableEq ι] in
theorem sound_init : (init : Vouchers ι ν).Sound where
  issued_nodup := List.nodup_nil
  redeemed_nodup := List.nodup_nil
  redeemed_issued _ h := absurd h List.not_mem_nil
  held_issued _ _ h := by cases h
  held_fresh _ _ h := by cases h
  held_inj _ _ _ h := by cases h

/-- What the holder `i` does. -/
inductive Move (i : ι) (V : Vouchers ι ν) : Vouchers ι ν → Prop
  | keep : Move i V V
  | drop : Move i V ⟨V.issued, Function.update V.held i none, V.redeemed⟩
  | issue (v : ν) (hnew : v ∉ V.issued) :
      Move i V ⟨v :: V.issued, Function.update V.held i (some v), V.redeemed⟩
  | takeOver (v : ν) (hissued : v ∈ V.issued) (hfresh : v ∉ V.redeemed)
      (hfree : ∀ j, V.held j ≠ some v) :
      Move i V ⟨V.issued, Function.update V.held i (some v), V.redeemed⟩
  | redeem (v : ν) (hheld : V.held i = some v) :
      Move i V ⟨V.issued, Function.update V.held i none, v :: V.redeemed⟩

namespace Sound

variable {V W : Vouchers ι ν} {i j : ι}

theorem update_cases {w v : Option ν} (h : Function.update V.held i w j = v) :
    (j = i ∧ w = v) ∨ (j ≠ i ∧ V.held j = v) := by
  by_cases hj : j = i
  · subst hj
    exact .inl ⟨rfl, by simpa using h⟩
  · rw [Function.update_of_ne hj] at h
    exact .inr ⟨hj, h⟩

theorem drop (hV : V.Sound) (i : ι) :
    Sound ⟨V.issued, Function.update V.held i none, V.redeemed⟩ where
  issued_nodup := hV.issued_nodup
  redeemed_nodup := hV.redeemed_nodup
  redeemed_issued := hV.redeemed_issued
  held_issued j v h := by
    rcases update_cases h with ⟨-, h⟩ | ⟨-, h⟩
    · cases h
    · exact hV.held_issued j v h
  held_fresh j v h := by
    rcases update_cases h with ⟨-, h⟩ | ⟨-, h⟩
    · cases h
    · exact hV.held_fresh j v h
  held_inj j k v hj hk := by
    rcases update_cases hj with ⟨-, hj⟩ | ⟨-, hj⟩
    · cases hj
    · rcases update_cases hk with ⟨-, hk⟩ | ⟨-, hk⟩
      · cases hk
      · exact hV.held_inj j k v hj hk

omit [DecidableEq ι] in
/-- All holders lose what they hold. -/
theorem dropAll (hV : V.Sound) : Sound ⟨V.issued, fun _ : ι => none, V.redeemed⟩ where
  issued_nodup := hV.issued_nodup
  redeemed_nodup := hV.redeemed_nodup
  redeemed_issued := hV.redeemed_issued
  held_issued _ _ h := by cases h
  held_fresh _ _ h := by cases h
  held_inj _ _ _ h := by cases h

/-- A voucher that is not redeemed and that nobody holds goes to one holder. -/
theorem give (hV : V.Sound) (i : ι) {v : ν} (hissued : v ∈ V.issued)
    (hfresh : v ∉ V.redeemed) (hfree : ∀ j, V.held j ≠ some v) :
    Sound ⟨V.issued, Function.update V.held i (some v), V.redeemed⟩ where
  issued_nodup := hV.issued_nodup
  redeemed_nodup := hV.redeemed_nodup
  redeemed_issued := hV.redeemed_issued
  held_issued j u h := by
    rcases update_cases h with ⟨-, h⟩ | ⟨-, h⟩
    · cases h
      exact hissued
    · exact hV.held_issued j u h
  held_fresh j u h := by
    rcases update_cases h with ⟨-, h⟩ | ⟨-, h⟩
    · cases h
      exact hfresh
    · exact hV.held_fresh j u h
  held_inj j k u hj hk := by
    rcases update_cases hj with ⟨hji, hvu⟩ | ⟨-, hj⟩
    · cases hvu
      rcases update_cases hk with ⟨hki, -⟩ | ⟨-, hk⟩
      · exact hji.trans hki.symm
      · exact absurd hk (hfree k)
    · rcases update_cases hk with ⟨-, hvu⟩ | ⟨-, hk⟩
      · cases hvu
        exact absurd hj (hfree j)
      · exact hV.held_inj j k u hj hk

omit [DecidableEq ι] in
theorem issued_cons (hV : V.Sound) {v : ν} (hnew : v ∉ V.issued) :
    Sound ⟨v :: V.issued, V.held, V.redeemed⟩ where
  issued_nodup := List.nodup_cons.2 ⟨hnew, hV.issued_nodup⟩
  redeemed_nodup := hV.redeemed_nodup
  redeemed_issued u hu := List.mem_cons_of_mem v (hV.redeemed_issued u hu)
  held_issued j u h := List.mem_cons_of_mem v (hV.held_issued j u h)
  held_fresh := hV.held_fresh
  held_inj := hV.held_inj

omit [DecidableEq ι] in
theorem redeemed_cons (hV : V.Sound) {v : ν} (hissued : v ∈ V.issued)
    (hfresh : v ∉ V.redeemed) (hfree : ∀ j, V.held j ≠ some v) :
    Sound ⟨V.issued, V.held, v :: V.redeemed⟩ where
  issued_nodup := hV.issued_nodup
  redeemed_nodup := List.nodup_cons.2 ⟨hfresh, hV.redeemed_nodup⟩
  redeemed_issued u hu := by
    rcases List.mem_cons.1 hu with rfl | hu
    · exact hissued
    · exact hV.redeemed_issued u hu
  held_issued := hV.held_issued
  held_fresh j u h hmem := by
    rcases List.mem_cons.1 hmem with rfl | hmem
    · exact hfree j h
    · exact hV.held_fresh j u h hmem
  held_inj := hV.held_inj

/-- Every move keeps the books sound. -/
theorem move (hV : V.Sound) (h : V.Move i W) : W.Sound := by
  cases h with
  | keep => exact hV
  | drop => exact hV.drop i
  | issue v hnew =>
      have hfree : ∀ j, V.held j ≠ some v := fun j hj => hnew (hV.held_issued j v hj)
      have hfresh : v ∉ V.redeemed := fun hv => hnew (hV.redeemed_issued v hv)
      exact (hV.issued_cons hnew).give i List.mem_cons_self hfresh hfree
  | takeOver v hissued hfresh hfree => exact hV.give i hissued hfresh hfree
  | redeem v hheld =>
      refine (hV.drop i).redeemed_cons (hV.held_issued i v hheld) (hV.held_fresh i v hheld)
        fun j hj => ?_
      rcases update_cases hj with ⟨-, hj⟩ | ⟨hne, hj⟩
      · cases hj
      · exact hne (hV.held_inj j i v hj hheld)

end Sound

end Vouchers

/-- Items with different sources weigh at most what their sources weigh. -/
theorem sum_le_sum_of_nodup {β α : Type*} [AddCommMonoid α] [PartialOrder α]
    [IsOrderedAddMonoid α] {f : β → ν} {q : β → α} {w : ν → α} {L : List β} {M : List ν}
    (hL : (L.map f).Nodup) (hmem : ∀ x ∈ L, f x ∈ M) (hle : ∀ x ∈ L, q x ≤ w (f x))
    (hw : ∀ v ∈ M, 0 ≤ w v) : (L.map q).sum ≤ (M.map w).sum := by
  have hsub : (L.map f) ⊆ M := by
    intro v hv
    obtain ⟨x, hx, rfl⟩ := List.mem_map.1 hv
    exact hmem x hx
  obtain ⟨l, hperm, hlist⟩ := hL.subperm hsub
  calc
    (L.map q).sum ≤ (L.map fun x => w (f x)).sum := List.sum_le_sum hle
    _ = ((L.map f).map w).sum := by rw [List.map_map]; rfl
    _ = (l.map w).sum := ((hperm.map w).sum_eq).symm
    _ ≤ (M.map w).sum := by
      refine (hlist.map w).sum_le_sum fun a ha => ?_
      obtain ⟨v, hv, rfl⟩ := List.mem_map.1 ha
      exact hw v hv

end Accounting
