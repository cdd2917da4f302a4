import Mathlib.Logic.Function.Basic

/-!
# A registry and the entries that are written for it

A registry gives each key at most one current id. Entries with an id and a key are kept
elsewhere: they are added for what is registered, and closed by their id when it is given
up. The open entries follow the registry as long as no id is given up with its entry left
open; an entry that is left open is never closed again, since later ids are new.
-/

namespace Collection

/-- What is kept for an id. -/
structure Entry (κ ι : Type*) where
  id : ι
  key : κ
  isOpen : Bool

variable {κ ι : Type*}

/-- An id belongs to one key, in the registry and in the entries. -/
structure Keyed (ids : κ → Option ι) (es : List (Entry κ ι)) : Prop where
  registered : ∀ k k' i, ids k = some i → ids k' = some i → k' = k
  entries : ∀ e ∈ es, ∀ k, ids k = some e.id → e.key = k

/-- The open entries of a key have its current id. -/
def Tracks (ids : κ → Option ι) (es : List (Entry κ ι)) (k : κ) : Prop :=
  ∀ e ∈ es, e.isOpen = true → e.key = k → ids k = some e.id

/-- The id is nowhere. -/
structure IsNew (i : ι) (ids : κ → Option ι) (es : List (Entry κ ι)) : Prop where
  registered : ∀ k, ids k ≠ some i
  entries : ∀ e ∈ es, e.id ≠ i

/-- Closing the entry of an id. -/
def closeEntry [DecidableEq ι] (i : ι) (es : List (Entry κ ι)) : List (Entry κ ι) :=
  es.map fun e => if e.id = i then { e with isOpen := false } else e

section Rules

variable {ids : κ → Option ι} {es : List (Entry κ ι)} {k k' : κ} {i : ι}

theorem tracks_iff_of_none (h : ids k = none) :
    Tracks ids es k ↔ ∀ e ∈ es, e.key = k → e.isOpen = false := by
  unfold Tracks
  rw [h]
  constructor
  · intro htracks e he hkey
    by_contra hopen
    cases htracks e he (by simpa using hopen) hkey
  · intro hclosed e he hopen hkey
    rw [hclosed e he hkey] at hopen
    cases hopen

/-! ### Adding an entry -/

theorem Keyed.add (h : Keyed ids es) (hk : ids k = some i) :
    Keyed ids (es ++ [⟨i, k, true⟩]) where
  registered := h.registered
  entries := by
    intro e he k' hk'
    rcases List.mem_append.1 he with he | he
    · exact h.entries e he k' hk'
    · obtain rfl := List.mem_singleton.1 he
      exact h.registered k' k i hk' hk

theorem tracks_add_iff (hk : ids k = some i) :
    Tracks ids (es ++ [⟨i, k, true⟩]) k' ↔ Tracks ids es k' := by
  constructor
  · intro h e he
    exact h e (List.mem_append_left _ he)
  · intro h e he hopen hkey
    rcases List.mem_append.1 he with he | he
    · exact h e he hopen hkey
    · obtain rfl := List.mem_singleton.1 he
      exact hkey ▸ hk

variable [DecidableEq κ]

/-! ### Registering an id -/

theorem Keyed.register (h : Keyed ids es) (hnew : IsNew i ids es) :
    Keyed (Function.update ids k (some i)) es where
  registered := by
    intro k₁ k₂ j h₁ h₂
    by_cases hk₁ : k₁ = k
    · by_cases hk₂ : k₂ = k
      · rw [hk₁, hk₂]
      · rw [hk₁, Function.update_self] at h₁
        rw [Function.update_of_ne hk₂, ← h₁] at h₂
        exact absurd h₂ (hnew.registered k₂)
    · rw [Function.update_of_ne hk₁] at h₁
      by_cases hk₂ : k₂ = k
      · rw [hk₂, Function.update_self] at h₂
        rw [← h₂] at h₁
        exact absurd h₁ (hnew.registered k₁)
      · rw [Function.update_of_ne hk₂] at h₂
        exact h.registered k₁ k₂ j h₁ h₂
  entries := by
    intro e he k' hk'
    by_cases hk : k' = k
    · rw [hk, Function.update_self] at hk'
      exact absurd (Option.some.inj hk').symm (hnew.entries e he)
    · rw [Function.update_of_ne hk] at hk'
      exact h.entries e he k' hk'

theorem tracks_register_iff (hnew : IsNew i ids es) (hk : ids k = none) :
    Tracks (Function.update ids k (some i)) es k' ↔ Tracks ids es k' := by
  by_cases hkey : k' = k
  · subst hkey
    rw [tracks_iff_of_none hk, Tracks, Function.update_self]
    constructor
    · intro h e he hke
      by_contra hopen
      exact hnew.entries e he (Option.some.inj (h e he (by simpa using hopen) hke)).symm
    · intro h e he hopen hke
      rw [h e he hke] at hopen
      cases hopen
  · rw [Tracks, Tracks, Function.update_of_ne hkey]

/-! ### Giving an id up -/

theorem Keyed.giveUp (h : Keyed ids es) (k : κ) : Keyed (Function.update ids k none) es where
  registered := by
    intro k₁ k₂ j h₁ h₂
    have hne : ∀ k', Function.update ids k none k' = some j → ids k' = some j := by
      intro k' hk'
      by_cases hk : k' = k
      · rw [hk, Function.update_self] at hk'
        cases hk'
      · rwa [Function.update_of_ne hk] at hk'
    exact h.registered k₁ k₂ j (hne k₁ h₁) (hne k₂ h₂)
  entries := by
    intro e he k' hk'
    by_cases hk : k' = k
    · rw [hk, Function.update_self] at hk'
      cases hk'
    · rw [Function.update_of_ne hk] at hk'
      exact h.entries e he k' hk'

/-- An id that is given up leaves the entries in step exactly when its own are closed. -/
theorem tracks_giveUp_iff (h : Keyed ids es) (hk : ids k = some i) :
    Tracks (Function.update ids k none) es k' ↔
      Tracks ids es k' ∧ (k' = k → ∀ e ∈ es, e.id = i → e.isOpen = false) := by
  by_cases hkey : k' = k
  · subst hkey
    rw [tracks_iff_of_none (Function.update_self _ _ _)]
    constructor
    · intro hclosed
      refine ⟨fun e he hopen hke => ?_, fun _ e he hid => ?_⟩
      · rw [hclosed e he hke] at hopen
        cases hopen
      · exact hclosed e he (h.entries e he k' (hid ▸ hk))
    · rintro ⟨htracks, hown⟩ e he hke
      by_contra hopen
      have hid := htracks e he (by simpa using hopen) hke
      rw [hk] at hid
      exact hopen (hown rfl e he (Option.some.inj hid).symm)
  · rw [Tracks, Tracks, Function.update_of_ne hkey]
    simp [hkey]

section Close

variable [DecidableEq ι]

omit [DecidableEq κ] in
theorem Keyed.closeEntry (h : Keyed ids es) (i : ι) : Keyed ids (closeEntry i es) where
  registered := h.registered
  entries := by
    intro e he k hk
    obtain ⟨e, hmem, rfl⟩ := List.mem_map.1 he
    split at hk
    next hid =>
      rw [if_pos hid]
      exact h.entries e hmem k hk
    next hid =>
      rw [if_neg hid]
      exact h.entries e hmem k hk

omit [DecidableEq κ] in
/-- Closing the entry of a registered id leaves the entries in step. -/
theorem tracks_closeEntry_iff (h : Keyed ids es) (hk : ids k = some i) :
    Tracks ids (Collection.closeEntry i es) k' ↔ Tracks ids es k' := by
  constructor
  · intro htracks e he hopen hkey
    by_cases hid : e.id = i
    · have hkey' := h.entries e he k (hid ▸ hk)
      rw [← hkey, hkey', hid, hk]
    · exact htracks e (List.mem_map.2 ⟨e, he, if_neg hid⟩) hopen hkey
  · intro htracks e he hopen hkey
    obtain ⟨e, hmem, rfl⟩ := List.mem_map.1 he
    split at hopen
    next hid => cases hopen
    next hid =>
      rw [if_neg hid] at hkey ⊢
      exact htracks e hmem hopen hkey

omit [DecidableEq κ] in
theorem isOpen_of_mem_closeEntry {e : Entry κ ι} (he : e ∈ Collection.closeEntry i es)
    (hid : e.id = i) : e.isOpen = false := by
  obtain ⟨e, hmem, rfl⟩ := List.mem_map.1 he
  split at hid
  next hid' => rw [if_pos hid']
  next hid' => exact absurd hid hid'

/-- An id that is given up with its entry closed leaves the entries in step. -/
theorem tracks_giveUp_closeEntry_iff (h : Keyed ids es) (hk : ids k = some i) :
    Tracks (Function.update ids k none) (Collection.closeEntry i es) k' ↔ Tracks ids es k' := by
  rw [tracks_giveUp_iff (h.closeEntry i) hk, tracks_closeEntry_iff h hk, and_iff_left_iff_imp]
  exact fun _ _ e he hid => isOpen_of_mem_closeEntry he hid

end Close

end Rules

end Collection
