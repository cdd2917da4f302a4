import Sgr.Collection.Dict

/-!
# Remembered results

A function is called through a cache that remembers the values of the calls that succeed under a
key of the argument. What the calls return is what the function returns exactly if of two calls
with one key, the first of which succeeds, both have the same result.
-/

namespace Collection

variable {ρ κ α β : Type*} [DecidableEq κ]

section Memo

variable (load : ρ → β) (value? : β → Option α) (ofValue : α → β) (key : ρ → κ)

/-- A call through the cache. -/
def memo (cache : Dict κ α) (r : ρ) : β × Dict κ α :=
  match cache.get? (key r) with
  | some a => (ofValue a, cache)
  | none =>
      (load r, match value? (load r) with
        | some a => cache.set (key r) a
        | none => cache)

/-- What calls through the cache return, one after the other. -/
def memoAll : Dict κ α → List ρ → List β
  | _, [] => []
  | cache, r :: rs =>
      (memo load value? ofValue key cache r).1 ::
        memoAll (memo load value? ofValue key cache r).2 rs

/-- What is remembered for a call is what it returns. -/
def RemembersResult (cache : Dict κ α) (r : ρ) : Prop :=
  ∀ a, cache.get? (key r) = some a → load r = ofValue a

end Memo

variable {load : ρ → β} {value? : β → Option α} {ofValue : α → β} {key : ρ → κ}
  {cache : Dict κ α} {r r' : ρ} {a : α}

theorem memo_of_get?_eq_some (h : cache.get? (key r) = some a) :
    memo load value? ofValue key cache r = (ofValue a, cache) := by
  rw [memo, h]

theorem memo_of_get?_eq_none (h : cache.get? (key r) = none) :
    memo load value? ofValue key cache r = (load r, match value? (load r) with
      | some a => cache.set (key r) a
      | none => cache) := by
  rw [memo, h]

theorem remembersResult_set_iff (h : cache.get? (key r) = none) :
    RemembersResult load ofValue key (cache.set (key r) a) r' ↔
      RemembersResult load ofValue key cache r' ∧ (key r = key r' → load r' = ofValue a) := by
  unfold RemembersResult
  by_cases hkey : key r' = key r
  · rw [hkey, Dict.get?_set_self, h]
    simp
  · rw [Dict.get?_set_of_ne _ hkey]
    simp [Ne.symm hkey]

/-- Calls through a cache return what the function returns exactly if what is remembered at first
is right for them, and of two calls with one key the second has the result of the first if that
one succeeds. -/
theorem memoAll_eq_map_iff (hvalue : ∀ b a, value? b = some a ↔ b = ofValue a)
    (cache : Dict κ α) (rs : List ρ) :
    memoAll load value? ofValue key cache rs = rs.map load ↔
      (∀ r ∈ rs, RemembersResult load ofValue key cache r) ∧
        rs.Pairwise fun r r' => key r = key r' → ∀ a, load r = ofValue a → load r' = ofValue a := by
  induction rs generalizing cache with
  | nil => simp [memoAll]
  | cons r rs ih =>
      rw [memoAll, List.map_cons, List.cons.injEq, ih, List.forall_mem_cons, List.pairwise_cons]
      cases hget : cache.get? (key r) with
      | some a =>
          -- the call is answered from the cache
          rw [memo_of_get?_eq_some hget]
          have hfirst : ofValue a = load r ↔ RemembersResult load ofValue key cache r := by
            simp [RemembersResult, hget, eq_comm]
          rw [hfirst]
          constructor
          · rintro ⟨hr, hrs, hpairs⟩
            refine ⟨⟨hr, hrs⟩, fun r' hr' hkey a' ha' => ?_, hpairs⟩
            rw [hr a hget] at ha'
            rw [hrs r' hr' a (hkey ▸ hget), ha']
          · rintro ⟨⟨hr, hrs⟩, -, hpairs⟩
            exact ⟨hr, hrs, hpairs⟩
      | none =>
          rw [memo_of_get?_eq_none hget]
          have hr : RemembersResult load ofValue key cache r := fun a ha => by
            rw [hget] at ha
            cases ha
          simp only [true_and, hr]
          cases hload : value? (load r) with
          | none =>
              have hfails : ∀ a, load r ≠ ofValue a := fun a ha => by
                rw [(hvalue _ _).2 ha] at hload
                cases hload
              simp [hfails]
          | some a =>
              have ha : ∀ a', load r = ofValue a' ↔ a' = a := fun a' => by
                rw [← hvalue, hload, Option.some.injEq, eq_comm]
              simp only [remembersResult_set_iff hget, ha, forall_eq, ← and_assoc, forall₂_and]

end Collection
