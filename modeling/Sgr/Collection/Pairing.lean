import Mathlib.Data.List.Perm.Basic
import Mathlib.Data.List.Forall2
import Mathlib.Data.List.Nodup

/-!
# Pairing two lists by keys

Two lists can be paired when one of them, in some order, stands in a relation to the other entry
by entry. When related entries have equal keys and no key occurs twice, there is only one way to
pair them.
-/

namespace Collection

variable {α β κ : Type*}

/-- The lists can be paired one to one by `R`. -/
def Paired (R : α → β → Prop) (as : List α) (bs : List β) : Prop :=
  ∃ as', as'.Perm as ∧ List.Forall₂ R as' bs

variable {R : α → β → Prop} {as : List α} {bs : List β} {f : α → κ} {g : β → κ}

theorem map_eq_map_of_forall₂ (hkey : ∀ a b, R a b → f a = g b) (h : List.Forall₂ R as bs) :
    as.map f = bs.map g := by
  induction h with
  | nil => rfl
  | cons hab _ ih => rw [List.map_cons, List.map_cons, hkey _ _ hab, ih]

/-- Paired lists have the same keys. -/
theorem Paired.perm_map (hkey : ∀ a b, R a b → f a = g b) (h : Paired R as bs) :
    (as.map f).Perm (bs.map g) := by
  obtain ⟨as', hperm, hpairs⟩ := h
  rw [← map_eq_map_of_forall₂ hkey hpairs]
  exact (hperm.map f).symm

/-- Every entry of the second list has a partner. -/
theorem Paired.exists_left (h : Paired R as bs) {b : β} (hb : b ∈ bs) : ∃ a ∈ as, R a b := by
  obtain ⟨as', hperm, hpairs⟩ := h
  obtain ⟨a, ha, hab⟩ : ∃ a ∈ as', R a b := by
    clear hperm
    induction hpairs with
    | nil => cases hb
    | @cons a b' as' bs' hab _ ih =>
        rcases List.mem_cons.1 hb with rfl | hb
        · exact ⟨a, List.mem_cons_self, hab⟩
        · obtain ⟨a', ha', hab'⟩ := ih hb
          exact ⟨a', List.mem_cons_of_mem _ ha', hab'⟩
  exact ⟨a, hperm.mem_iff.1 ha, hab⟩

/-- Every entry of the first list has a partner. -/
theorem Paired.exists_right (h : Paired R as bs) {a : α} (ha : a ∈ as) : ∃ b ∈ bs, R a b := by
  obtain ⟨as', hperm, hpairs⟩ := h
  have ha' := hperm.mem_iff.2 ha
  clear hperm ha
  induction hpairs with
  | nil => cases ha'
  | @cons a' b as' bs' hab _ ih =>
      rcases List.mem_cons.1 ha' with rfl | ha'
      · exact ⟨b, List.mem_cons_self, hab⟩
      · obtain ⟨b', hb', hab'⟩ := ih ha'
        exact ⟨b', List.mem_cons_of_mem _ hb', hab'⟩

/-- Lists with the same keys can be paired when entries with equal keys are related. -/
theorem paired_of_perm_map (hperm : (as.map f).Perm (bs.map g))
    (hrel : ∀ a ∈ as, ∀ b ∈ bs, f a = g b → R a b) : Paired R as bs := by
  induction bs generalizing as with
  | nil =>
      rw [List.map_nil, List.perm_nil, List.map_eq_nil_iff] at hperm
      exact ⟨[], by rw [hperm], .nil⟩
  | cons b bs ih =>
      obtain ⟨a, ha, hab⟩ : ∃ a ∈ as, f a = g b :=
        List.mem_map.1 (hperm.mem_iff.2 List.mem_cons_self)
      obtain ⟨before, after, rfl⟩ := List.append_of_mem ha
      have hmiddle : (before ++ a :: after).Perm (a :: (before ++ after)) := List.perm_middle
      have hrest : ((before ++ after).map f).Perm (bs.map g) := by
        have hcons := (hmiddle.map f).symm.trans hperm
        rw [List.map_cons, List.map_cons, hab] at hcons
        exact hcons.cons_inv
      obtain ⟨as', hperm', hpairs⟩ := ih hrest fun a' ha' b' hb' =>
        hrel a' (hmiddle.mem_iff.2 (List.mem_cons_of_mem _ ha')) b' (List.mem_cons_of_mem _ hb')
      exact ⟨a :: as', (hperm'.cons a).trans hmiddle.symm,
        .cons (hrel a ha b List.mem_cons_self hab) hpairs⟩

/-- When no key occurs twice, the partner is the entry with the same key. -/
theorem paired_iff (hkey : ∀ a b, R a b → f a = g b) (hnodup : (as.map f).Nodup) :
    Paired R as bs ↔
      (as.map f).Perm (bs.map g) ∧ ∀ a ∈ as, ∀ b ∈ bs, f a = g b → R a b := by
  constructor
  · intro h
    refine ⟨h.perm_map hkey, fun a ha b hb hab => ?_⟩
    obtain ⟨a', ha', hab'⟩ := h.exists_left hb
    have hsame : a' = a :=
      List.inj_on_of_nodup_map hnodup ha' ha ((hkey a' b hab').trans hab.symm)
    rwa [← hsame]
  · rintro ⟨hperm, hrel⟩
    exact paired_of_perm_map hperm hrel

/-- A list in which a key occurs twice has an entry whose key comes again. -/
theorem exists_append_of_not_nodup_map (h : ¬ (as.map f).Nodup) :
    ∃ before a after, as = before ++ a :: after ∧ f a ∈ after.map f := by
  induction as with
  | nil => exact absurd List.nodup_nil h
  | cons a as ih =>
      by_cases ha : f a ∈ as.map f
      · exact ⟨[], a, as, rfl, ha⟩
      · have hrest : ¬ (as.map f).Nodup := fun hnodup => h (List.nodup_cons.2 ⟨ha, hnodup⟩)
        obtain ⟨before, a', after, rfl, ha'⟩ := ih hrest
        exact ⟨a :: before, a', after, rfl, ha'⟩

end Collection
