import Sgr.Execution.OrderSafety.Basic

/-!
# Steps of the safe order executor

`SafeStep` lists what one segment of `execute_safely` can do, one constructor for
each branch. The invariants of the executor are proved by cases on it; what a
step leaves alone is stated once, in the frame lemmas.
-/

open Collection Concurrency

namespace Sgr

/-- One segment of `execute_safely` for the order `o`: the state and the control
point before, the event, and the state and the control point after. -/
inductive SafeStep (repo : Bool) (o : OrderRequest) (s : ExecutorState) :
    SafePc → SafeEvent → ExecutorState → SafePc → Prop
  | callBlocked (cached : OrderResult) (h : s.inFlight.get? o.id = some cached) :
      SafeStep repo o s .idle .call s (.blocked (makeDuplicateResult cached))
  | callLookup (h : s.inFlight.get? o.id = none) (hrepo : repo = true) :
      SafeStep repo o s .idle .call s .lookup
  | callSubmit (h : s.inFlight.get? o.id = none) (hrepo : repo = false) :
      SafeStep repo o s .idle .call
        ((s.track o.id (placeholder o)).submit o.id) .submitting
  | lookupAnswers : SafeStep repo o s .lookup .lookupAnswers s (.lookedUp (s.orders o.id))
  | lookupFails : SafeStep repo o s .lookup .lookupFails s (.lookedUp none)
  | recovered (row : OrderRow) :
      SafeStep repo o s (.lookedUp (some row)) .resume s (.blocked (recoveredResult row o))
  | accepted :
      SafeStep repo o s (.lookedUp none) .resume (s.track o.id (placeholder o))
        .persistPending
  | createCommits (h : s.orders o.id = none) :
      SafeStep repo o s .persistPending .createCommits (s.putRow o.id (pendingRow o))
        .pendingPersisted
  | createFails : SafeStep repo o s .persistPending .createFails s .pendingPersisted
  | submits : SafeStep repo o s .pendingPersisted .resume (s.submit o.id) .submitting
  | submitReturns (r : OrderResult) :
      SafeStep repo o s .submitting (.submitReturns r) (s.track o.id r)
        (if repo then .persistFinal r false else .finished r)
  | submitRaises (e : String) (hrepo : repo = true) :
      SafeStep repo o s .submitting (.submitRaises e) s
        (.persistFinal (makeUnknownResult o e) true)
  | submitRaisesDrops (e : String) (hrepo : repo = false) :
      SafeStep repo o s .submitting (.submitRaises e) (s.release o.id)
        (.finished (makeUnknownResult o e))
  | updateCommits (r : OrderResult) (raised : Bool) :
      SafeStep repo o s (.persistFinal r raised) .updateCommits (s.updateStatus o.id r)
        (.finalPersisted r raised)
  | updateFails (r : OrderResult) (raised : Bool) :
      SafeStep repo o s (.persistFinal r raised) .updateFails s (.finalPersisted r raised)
  | returns (r : OrderResult) :
      SafeStep repo o s (.finalPersisted r false) .resume s (.finished r)
  | dropsAndReturns (r : OrderResult) :
      SafeStep repo o s (.finalPersisted r true) .resume (s.release o.id) (.finished r)

theorem safeStep_safeCall (repo : Bool) (o : OrderRequest) (s : ExecutorState) :
    SafeStep repo o s .idle .call (safeCall repo o s).1 (safeCall repo o s).2 := by
  unfold safeCall
  split
  · rename_i cached hget
    exact .callBlocked cached hget
  · rename_i hget
    cases repo with
    | true => exact .callLookup hget rfl
    | false => exact .callSubmit hget rfl

/-- What a segment does is one of the listed steps. -/
theorem safeStep_of_safeSegment {repo : Bool} {o : OrderRequest} {s t : ExecutorState}
    {p q : SafePc} {e : SafeEvent} (h : safeSegment repo o s p e = some (t, q)) :
    SafeStep repo o s p e t q := by
  unfold safeSegment at h
  split at h
  · have hcall := safeStep_safeCall repo o s
    rw [Option.some.inj h] at hcall
    exact hcall
  · cases h
    exact .lookupAnswers
  · cases h
    exact .lookupFails
  · cases h
    exact .recovered _
  · cases h
    exact .accepted
  · split at h
    · rename_i hnone
      cases h
      exact .createCommits (Option.isNone_iff_eq_none.1 hnone)
    · cases h
  · cases h
    exact .createFails
  · cases h
    exact .submits
  · cases h
    exact .submitReturns _
  · cases repo with
    | true =>
        cases h
        exact .submitRaises _ rfl
    | false =>
        cases h
        exact .submitRaisesDrops _ rfl
  · cases h
    exact .updateCommits _ _
  · cases h
    exact .updateFails _ _
  · rename_i r raised
    cases raised with
    | true =>
        cases h
        exact .dropsAndReturns r
    | false =>
        cases h
        exact .returns r
  · cases h

namespace SafePc

/-- The call has passed both duplicate checks. -/
def passed : SafePc → Bool
  | .persistPending | .pendingPersisted | .submitting | .persistFinal _ _
  | .finalPersisted _ _ | .finished _ => true
  | _ => false

/-- The call has started `exchange_submit_fn`. -/
def hasSubmitted : SafePc → Bool
  | .submitting | .persistFinal _ _ | .finalPersisted _ _ | .finished _ => true
  | _ => false

/-- The call's `exchange_submit_fn` has raised and the executor still has to
drop the id. -/
def willDrop : SafePc → Bool
  | .persistFinal _ raised | .finalPersisted _ raised => raised
  | _ => false

/-- The call has returned. -/
def done : SafePc → Bool
  | .blocked _ | .finished _ => true
  | _ => false

theorem passed_of_hasSubmitted {p : SafePc} (h : p.hasSubmitted = true) :
    p.passed = true := by
  cases p <;> first | rfl | cases h

end SafePc

namespace ExecutorState

/-- The id is a key of `_in_flight`. -/
def tracked (s : ExecutorState) (k : UUID) : Prop := (s.inFlight.get? k).isSome

/-- The table has a row for the id. -/
def persisted (s : ExecutorState) (k : UUID) : Prop := (s.orders k).isSome

instance (s : ExecutorState) (k : UUID) : Decidable (s.tracked k) :=
  inferInstanceAs (Decidable ((s.inFlight.get? k).isSome = true))

instance (s : ExecutorState) (k : UUID) : Decidable (s.persisted k) :=
  inferInstanceAs (Decidable ((s.orders k).isSome = true))

variable (s : ExecutorState) (k k' : UUID) (r : OrderResult)

theorem tracked_track : (s.track k r).tracked k' ↔ k' = k ∨ s.tracked k' := by
  unfold tracked
  rw [track_inFlight, Dict.get?_set]
  by_cases h : k' = k
  · simp [h]
  · simp [h]

@[simp] theorem tracked_submit : (s.submit k).tracked k' ↔ s.tracked k' := Iff.rfl

@[simp] theorem tracked_putRow (row : OrderRow) :
    (s.putRow k row).tracked k' ↔ s.tracked k' := Iff.rfl

@[simp] theorem tracked_updateStatus :
    (s.updateStatus k r).tracked k' ↔ s.tracked k' := by
  unfold tracked
  rw [updateStatus_inFlight]

@[simp] theorem tracked_updateInflight :
    (s.updateInflight k r).tracked k' ↔ s.tracked k' := by
  unfold tracked
  rw [updateInflight_isSome]

theorem persisted_iff_ne_none : s.persisted k ↔ s.orders k ≠ none := by
  unfold persisted
  rw [Option.isSome_iff_ne_none]

theorem persisted_putRow (row : OrderRow) :
    (s.putRow k row).persisted k' ↔ k' = k ∨ s.persisted k' := by
  unfold persisted
  rw [putRow_orders]
  by_cases h : k' = k
  · simp [h]
  · simp [h]

@[simp] theorem persisted_updateStatus :
    (s.updateStatus k r).persisted k' ↔ s.persisted k' := by
  rw [persisted_iff_ne_none, persisted_iff_ne_none, ne_eq,
    updateStatus_orders_eq_none_iff]

end ExecutorState

namespace SafeStep

variable {repo : Bool} {o : OrderRequest} {s t : ExecutorState} {p q : SafePc}
  {e : SafeEvent}

theorem persisted_mono (h : SafeStep repo o s p e t q) {k : UUID}
    (hk : s.persisted k) : t.persisted k := by
  cases h with
  | createCommits _ => exact (s.persisted_putRow o.id k (pendingRow o)).2 (.inr hk)
  | updateCommits r _ => exact (s.persisted_updateStatus o.id k r).2 hk
  | _ => exact hk

theorem get?_of_ne (h : SafeStep repo o s p e t q) {k : UUID} (hk : k ≠ o.id) :
    t.inFlight.get? k = s.inFlight.get? k := by
  cases h with
  | callSubmit _ _ => exact s.inFlight.get?_set_of_ne hk _
  | accepted => exact s.inFlight.get?_set_of_ne hk _
  | submitReturns r => exact s.inFlight.get?_set_of_ne hk r
  | submitRaisesDrops _ _ => exact s.inFlight.get?_erase_of_ne hk
  | updateCommits r _ => rw [s.updateStatus_inFlight]
  | dropsAndReturns r => exact s.inFlight.get?_erase_of_ne hk
  | _ => rfl

theorem tracked_iff_of_ne (h : SafeStep repo o s p e t q) {k : UUID} (hk : k ≠ o.id) :
    t.tracked k ↔ s.tracked k := by
  unfold ExecutorState.tracked
  rw [h.get?_of_ne hk]

/-- An id loses its tracking only when its own call drops it after a failed
submission. -/
theorem tracked_mono (h : SafeStep repo o s p e t q) {k : UUID} (hk : s.tracked k)
    (hdrop : k = o.id → q.done = true → p.hasSubmitted = true → p.willDrop = false)
    (hrepo : repo = true) : t.tracked k := by
  by_cases hne : k = o.id
  · subst hne
    cases h with
    | callSubmit _ h => exact (s.tracked_track _ _ _).2 (.inl rfl)
    | accepted => exact (s.tracked_track _ _ _).2 (.inl rfl)
    | submitReturns r => exact (s.tracked_track _ _ _).2 (.inl rfl)
    | submitRaisesDrops _ h => simp [hrepo] at h
    | updateCommits r _ => exact (s.tracked_updateStatus _ _ r).2 hk
    | dropsAndReturns r => exact absurd (hdrop rfl rfl rfl) (by simp [SafePc.willDrop])
    | _ => exact hk
  · exact (h.tracked_iff_of_ne hne).2 hk

/-- The log of submissions grows exactly when a call starts the exchange call,
by the id of its order. -/
theorem submitted_eq (h : SafeStep repo o s p e t q) :
    (t.submitted = o.id :: s.submitted ∧ p.hasSubmitted = false ∧
        q.hasSubmitted = true) ∨
      (t.submitted = s.submitted ∧ q.hasSubmitted = p.hasSubmitted) := by
  cases h with
  | callSubmit _ _ => exact .inl ⟨rfl, rfl, rfl⟩
  | submits => exact .inl ⟨rfl, rfl, rfl⟩
  | submitReturns r => cases repo <;> exact .inr ⟨rfl, rfl⟩
  | updateCommits r _ => exact .inr ⟨s.updateStatus_submitted o.id r, rfl⟩
  | _ => exact .inr ⟨rfl, rfl⟩

/-- A call passes the duplicate checks in one step only. -/
theorem passed_cases (h : SafeStep repo o s p e t q) (hrepo : repo = true)
    (hq : q.passed = true) :
    p.passed = true ∨ (p = .lookedUp none ∧ e = .resume ∧ t.tracked o.id) := by
  cases h with
  | callSubmit _ h => simp [hrepo] at h
  | accepted => exact .inr ⟨rfl, rfl, (s.tracked_track _ _ _).2 (.inl rfl)⟩
  | createCommits _ => exact .inl rfl
  | createFails => exact .inl rfl
  | submits => exact .inl rfl
  | submitReturns r => exact .inl rfl
  | submitRaises _ _ => exact .inl rfl
  | submitRaisesDrops _ h => simp [hrepo] at h
  | updateCommits _ _ => exact .inl rfl
  | updateFails _ _ => exact .inl rfl
  | returns _ => exact .inl rfl
  | dropsAndReturns _ => exact .inl rfl
  | _ => cases hq

/-- With a repository a call that submits has passed the checks before. -/
theorem passed_of_submits (h : SafeStep repo o s p e t q) (hrepo : repo = true)
    (hp : p.hasSubmitted = false) (hq : q.hasSubmitted = true) : p.passed = true := by
  cases h with
  | callSubmit _ h => simp [hrepo] at h
  | submits => rfl
  | submitReturns _ => cases hp
  | submitRaises _ _ => cases hp
  | submitRaisesDrops _ _ => cases hp
  | updateCommits _ _ => cases hp
  | updateFails _ _ => cases hp
  | returns _ => cases hp
  | dropsAndReturns _ => cases hp
  | _ => cases hq

/-- A call has to drop its id only after its submission has raised. -/
theorem willDrop_cases (h : SafeStep repo o s p e t q) (hq : q.willDrop = true) :
    p.willDrop = true ∨ (p = .submitting ∧ ∃ msg, e = .submitRaises msg) := by
  cases h with
  | submitReturns r => cases repo <;> cases hq
  | submitRaises msg _ => exact .inr ⟨rfl, msg, rfl⟩
  | updateCommits _ _ => exact .inl hq
  | updateFails _ _ => exact .inl hq
  | _ => cases hq

/-- An id that is tracked or persisted stays so when the calls that have to drop
it find a row. -/
theorem known_mono (h : SafeStep repo o s p e t q) (hrepo : repo = true) {k : UUID}
    (hdrop : k = o.id → p.willDrop = true → s.persisted k)
    (hk : s.tracked k ∨ s.persisted k) : t.tracked k ∨ t.persisted k := by
  rcases hk with hk | hk
  · by_cases hpersisted : s.persisted k
    · exact .inr (h.persisted_mono hpersisted)
    · refine .inl (h.tracked_mono hk (fun hid _ _ => ?_) hrepo)
      exact Bool.eq_false_iff.2 fun hw => hpersisted (hdrop hid hw)
  · exact .inr (h.persisted_mono hk)

end SafeStep

end Sgr
