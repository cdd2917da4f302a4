import Sgr.Execution.OrderSafety.Steps

/-!
# Sequential calls across process restarts

A history of one account: calls of `execute_safely` one after the other, each of
which runs to its end or is cut off by a crash at one of its suspension points.
A crash loses `_in_flight`; the table stays. Between two calls the caller may
release an id. The table alone then carries the guarantee: a submitted id has a
row, and a call goes on only when its look-up finds none.
-/

open Collection Concurrency

namespace Sgr

/-- The process and its current call, if one is running. -/
structure Process where
  state : ExecutorState
  /-- The order of the running call and its control point. -/
  current : Option (OrderRequest × SafePc)

/-- What can happen next in a history. -/
inductive HistoryAction
  /-- A call starts; only while no other call runs. -/
  | begin (o : OrderRequest)
  /-- An event wakes the running call. -/
  | wake (e : SafeEvent)
  /-- The process dies and is started again. -/
  | crash
  /-- `release`, as the caller does it after a call has returned. -/
  | release (k : UUID)

/-- The running call after a segment; a call that has returned is gone. -/
def Process.advance (o : OrderRequest) (s : ExecutorState) (p : SafePc) : Process :=
  ⟨s, if p.done then none else some (o, p)⟩

/-- Histories of one process and its successors on one table. -/
def history : Machine Process HistoryAction where
  next
    | ⟨s, none⟩, .begin o => some ⟨s, some (o, .idle)⟩
    | ⟨s, some (o, p)⟩, .wake e =>
        (safeSegment true o s p e).map fun r => Process.advance o r.1 r.2
    | ⟨s, _⟩, .crash => some ⟨s.restart, none⟩
    | ⟨s, none⟩, .release k => some ⟨s.release k, none⟩
    | _, _ => none

/-- The repository of the history: every look-up is answered, and every insertion
has committed when it returns. Updates may fail. -/
def reliableRepository (_ : Process) : HistoryAction → Prop
  | .wake .lookupFails | .wake .createFails => False
  | _ => True

instance (P : Process) (a : HistoryAction) : Decidable (reliableRepository P a) := by
  unfold reliableRepository
  split <;> infer_instance

/-- What the control point of the running call says about its id `k`: no row is
there between the look-up that found none and the insertion, and between the
insertion and the exchange call the row is there and nothing was submitted. -/
def SafePc.Fresh (s : ExecutorState) (k : UUID) : SafePc → Prop
  | .lookedUp none | .persistPending => ¬ s.persisted k
  | .pendingPersisted => s.persisted k ∧ k ∉ s.submitted
  | .submitting => s.persisted k
  | _ => True

/-- Every submitted id has a row, no id was submitted twice, and the running call
agrees with the table. -/
structure SubmittedPersisted (P : Process) : Prop where
  persisted : ∀ k ∈ P.state.submitted, P.state.persisted k
  nodup : P.state.submitted.Nodup
  fresh : ∀ o p, P.current = some (o, p) → p.Fresh P.state o.id

/-- A call that runs a segment keeps the agreement of its control point with the
table. -/
theorem SafeStep.fresh {o : OrderRequest} {s t : ExecutorState} {p q : SafePc}
    {e : SafeEvent} (h : SafeStep true o s p e t q) (hs : ∀ k ∈ s.submitted, s.persisted k)
    (hlookup : e ≠ .lookupFails) (hcreate : e ≠ .createFails) (hp : p.Fresh s o.id) :
    q.Fresh t o.id := by
  cases h with
  | lookupAnswers =>
      cases hrow : s.orders o.id with
      | none => simp [SafePc.Fresh, ExecutorState.persisted, hrow]
      | some row => trivial
  | lookupFails => exact absurd rfl hlookup
  | accepted => exact hp
  | createCommits hnone =>
      refine ⟨(s.persisted_putRow _ _ _).2 (.inl rfl), fun hmem => ?_⟩
      exact hp (hs o.id hmem)
  | createFails => exact absurd rfl hcreate
  | submits => exact hp.1
  | callSubmit _ hrepo => cases hrepo
  | _ => trivial

/-- A call submits only an id that has a row and was not submitted before. -/
theorem SafeStep.submits_of_fresh {o : OrderRequest} {s t : ExecutorState}
    {p q : SafePc} {e : SafeEvent} (h : SafeStep true o s p e t q)
    (hsub : t.submitted = o.id :: s.submitted) (hp : p.Fresh s o.id) :
    s.persisted o.id ∧ o.id ∉ s.submitted := by
  have hne : s.submitted ≠ o.id :: s.submitted := fun h' => by simpa using congrArg List.length h'
  cases h with
  | submits => exact hp
  | callSubmit _ hrepo => cases hrepo
  | updateCommits r _ =>
      rw [ExecutorState.updateStatus_submitted] at hsub
      exact absurd hsub hne
  | _ => exact absurd hsub hne

namespace SubmittedPersisted

variable {P Q : Process}

theorem wake {s : ExecutorState} {o : OrderRequest} {p : SafePc} {e : SafeEvent}
    {t : ExecutorState} {q : SafePc} (hI : SubmittedPersisted ⟨s, some (o, p)⟩)
    (hok : reliableRepository ⟨s, some (o, p)⟩ (.wake e))
    (h : SafeStep true o s p e t q) : SubmittedPersisted (Process.advance o t q) := by
  have hp : p.Fresh s o.id := hI.fresh o p rfl
  have hpersisted : ∀ k ∈ t.submitted, t.persisted k := by
    intro k hk
    rcases h.submitted_eq with ⟨hsub, -⟩ | ⟨hsub, -⟩
    · rw [hsub, List.mem_cons] at hk
      rcases hk with rfl | hk
      · exact h.persisted_mono (h.submits_of_fresh hsub hp).1
      · exact h.persisted_mono (hI.persisted k hk)
    · exact h.persisted_mono (hI.persisted k (hsub ▸ hk))
  have hnodup : t.submitted.Nodup := by
    rcases h.submitted_eq with ⟨hsub, -⟩ | ⟨hsub, -⟩
    · rw [hsub, List.nodup_cons]
      exact ⟨(h.submits_of_fresh hsub hp).2, hI.nodup⟩
    · exact hsub ▸ hI.nodup
  refine ⟨hpersisted, hnodup, fun o' p' hcur => ?_⟩
  have hcases : q.done = false ∧ o = o' ∧ q = p' := by
    cases hq : q.done <;> simp_all [Process.advance]
  obtain ⟨-, rfl, rfl⟩ := hcases
  refine h.fresh hI.persisted ?_ ?_ hp
  · rintro rfl
    exact hok
  · rintro rfl
    exact hok

theorem step {a : HistoryAction} (hI : SubmittedPersisted P)
    (hok : reliableRepository P a) (h : history.next P a = some Q) :
    SubmittedPersisted Q := by
  obtain ⟨s, current⟩ := P
  cases a with
  | begin o =>
      cases current with
      | some c => cases h
      | none =>
          cases h
          refine ⟨hI.persisted, hI.nodup, fun o' p' hcur => ?_⟩
          cases hcur
          trivial
  | wake e =>
      cases current with
      | none => cases h
      | some c =>
          obtain ⟨⟨t, q⟩, hseg, rfl⟩ := Option.map_eq_some_iff.1 h
          exact hI.wake hok (safeStep_of_safeSegment hseg)
  | crash =>
      have hQ : Q = ⟨s.restart, none⟩ := by
        cases current <;> exact (Option.some.inj h).symm
      subst hQ
      exact ⟨hI.persisted, hI.nodup, fun _ _ hcur => by cases hcur⟩
  | release k =>
      cases current with
      | some c => cases h
      | none =>
          cases h
          exact ⟨hI.persisted, hI.nodup, fun _ _ hcur => by cases hcur⟩

end SubmittedPersisted

/-- Over every history on a reliable repository, of calls that end or are cut off
by a crash, each id is submitted at most once. -/
theorem history_submitted_count_le_one {s : ExecutorState} (hs : s.submitted = [])
    {as : List HistoryAction} {P : Process}
    (hok : history.Guarded reliableRepository ⟨s, none⟩ as)
    (hrun : history.run ⟨s, none⟩ as = some P) (k : UUID) :
    P.state.submitted.count k ≤ 1 := by
  have hstart : SubmittedPersisted ⟨s, none⟩ := by
    refine ⟨?_, ?_, fun _ _ hcur => by cases hcur⟩
    · simp [hs]
    · simp [hs]
  have hI : SubmittedPersisted P :=
    history.guarded_run_invariant reliableRepository SubmittedPersisted
      (fun _ _ _ hI hok h => hI.step hok h) hstart hok hrun
  exact List.nodup_iff_count_le_one.1 hI.nodup k

/-- A call that crashes during the exchange call and is retried after the restart. -/
theorem history_submitted_count_le_one_crashed_submit :
    ∃ P, history.run ⟨ExecutorState.init, none⟩
        [.begin (.market 7 .buy 1 .paper), .wake .call, .wake .lookupAnswers,
          .wake .resume, .wake .createCommits, .wake .resume, .crash,
          .begin (.market 7 .buy 1 .paper), .wake .call, .wake .lookupAnswers,
          .wake .resume] = some P ∧
      P.state.submitted.count 7 ≤ 1 := by
  refine Exists.imp (fun P hrun => ⟨hrun, ?_⟩) ⟨_, rfl⟩
  exact history_submitted_count_le_one rfl (by decide) hrun 7

end Sgr
