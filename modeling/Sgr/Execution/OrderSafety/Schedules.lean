import Sgr.Execution.OrderSafety.Steps

/-!
# Concurrent calls of the safe order executor

Any number of `execute_safely` calls share the map `_in_flight` and the table.
The map is read when a call starts and written after the look-up, so two calls
with one id can both pass: `submitted_twice` is such a schedule. A schedule in
which a call passes its look-up only while its id is neither tracked nor
persisted submits every order at most once.
-/

open Collection Concurrency

namespace Sgr

variable {ι : Type*} [DecidableEq ι]

/-- Concurrent `execute_safely` calls with an order repository, one for each
`i : ι`. -/
abbrev safeMachine (order : ι → OrderRequest) :
    Machine (Pool ι ExecutorState SafePc) (ι × SafeEvent) :=
  Pool.machine fun i => safeSegment true (order i)

/-- A fresh process in which no call has started. -/
def safeStart : Pool ι ExecutorState SafePc := ⟨ExecutorState.init, fun _ => .idle⟩

/-- The condition on a step under which ids are submitted once: a call passes its
look-up only if its id is neither tracked nor persisted at that moment, and a
submission fails, and then forgets the id, only if the table has the row. -/
def PassesAlone (order : ι → OrderRequest) (P : Pool ι ExecutorState SafePc)
    (a : ι × SafeEvent) : Prop :=
  match P.task a.1, a.2 with
  | .lookedUp none, .resume =>
      ¬ P.shared.tracked (order a.1).id ∧ ¬ P.shared.persisted (order a.1).id
  | .submitting, .submitRaises _ => P.shared.persisted (order a.1).id
  | _, _ => True

instance (order : ι → OrderRequest) (P : Pool ι ExecutorState SafePc)
    (a : ι × SafeEvent) : Decidable (PassesAlone order P a) := by
  unfold PassesAlone
  split <;> infer_instance

/-- Among the calls with one id at most one has passed the checks, the id of such
a call stays known, and the log of submissions has one entry for each id, which
belongs to a call that has submitted. -/
structure SubmitsOnce (order : ι → OrderRequest) (P : Pool ι ExecutorState SafePc) :
    Prop where
  owner : ∀ i j, (order i).id = (order j).id → (P.task i).passed = true →
    (P.task j).passed = true → i = j
  known : ∀ i, (P.task i).passed = true →
    P.shared.tracked (order i).id ∨ P.shared.persisted (order i).id
  kept : ∀ i, (P.task i).willDrop = true → P.shared.persisted (order i).id
  count_le_one : ∀ k, P.shared.submitted.count k ≤ 1
  submitter : ∀ k ∈ P.shared.submitted,
    ∃ i, (order i).id = k ∧ (P.task i).hasSubmitted = true

omit [DecidableEq ι] in
theorem submitsOnce_safeStart (order : ι → OrderRequest) :
    SubmitsOnce order safeStart where
  owner _ _ _ h _ := by cases h
  known _ h := by cases h
  kept _ h := by cases h
  count_le_one _ := by simp [safeStart, ExecutorState.init]
  submitter _ h := by cases h

namespace SubmitsOnce

variable {order : ι → OrderRequest} {P : Pool ι ExecutorState SafePc} {i : ι}
  {e : SafeEvent} {t : ExecutorState} {q : SafePc}

theorem owner_resume (hI : SubmitsOnce order P) (hok : PassesAlone order P (i, e))
    (h : SafeStep true (order i) P.shared (P.task i) e t q) (a b : ι)
    (hid : (order a).id = (order b).id)
    (ha : ((P.resume i t q).task a).passed = true)
    (hb : ((P.resume i t q).task b).passed = true) : a = b := by
  -- a call that passes now finds its id unknown, so no other call has passed
  have hfirst : ∀ j, j ≠ i → (order j).id = (order i).id → q.passed = true →
      (P.task j).passed = true → j = i := by
    intro j hj hjid hq hjp
    rcases h.passed_cases rfl hq with hp | ⟨hp, he, -⟩
    · exact hI.owner j i hjid hjp hp
    · obtain ⟨htracked, hpersisted⟩ :
          ¬ P.shared.tracked (order i).id ∧ ¬ P.shared.persisted (order i).id := by
        simpa [PassesAlone, hp, he] using hok
      rcases hI.known j hjp with hk | hk
      · exact absurd (hjid ▸ hk) htracked
      · exact absurd (hjid ▸ hk) hpersisted
  by_cases hai : a = i
  · subst hai
    by_cases hbi : b = a
    · exact hbi.symm
    · rw [P.resume_task_self] at ha
      rw [P.resume_task_of_ne hbi] at hb
      exact (hfirst b hbi hid.symm ha hb).symm
  · rw [P.resume_task_of_ne hai] at ha
    by_cases hbi : b = i
    · subst hbi
      rw [P.resume_task_self] at hb
      exact hfirst a hai hid hb ha
    · rw [P.resume_task_of_ne hbi] at hb
      exact hI.owner a b hid ha hb

theorem known_resume (hI : SubmitsOnce order P)
    (h : SafeStep true (order i) P.shared (P.task i) e t q) (j : ι)
    (hj : ((P.resume i t q).task j).passed = true) :
    t.tracked (order j).id ∨ t.persisted (order j).id := by
  by_cases hji : j = i
  · subst hji
    rw [P.resume_task_self] at hj
    rcases h.passed_cases rfl hj with hp | ⟨-, -, ht⟩
    · exact h.known_mono rfl (fun _ hw => hI.kept j hw) (hI.known j hp)
    · exact .inl ht
  · rw [P.resume_task_of_ne hji] at hj
    refine h.known_mono rfl (fun hid hw => ?_) (hI.known j hj)
    exact hid ▸ hI.kept i hw

theorem kept_resume (hI : SubmitsOnce order P) (hok : PassesAlone order P (i, e))
    (h : SafeStep true (order i) P.shared (P.task i) e t q) (j : ι)
    (hj : ((P.resume i t q).task j).willDrop = true) :
    t.persisted (order j).id := by
  by_cases hji : j = i
  · subst hji
    rw [P.resume_task_self] at hj
    rcases h.willDrop_cases hj with hp | ⟨hp, msg, he⟩
    · exact h.persisted_mono (hI.kept j hp)
    · exact h.persisted_mono (by simpa [PassesAlone, hp, he] using hok)
  · rw [P.resume_task_of_ne hji] at hj
    exact h.persisted_mono (hI.kept j hj)

omit [DecidableEq ι] in
/-- A call that has not submitted yet has an id that nobody has submitted, once it
has passed the checks. -/
theorem not_mem_submitted (hI : SubmitsOnce order P)
    (hpassed : (P.task i).passed = true) (hnot : (P.task i).hasSubmitted = false) :
    (order i).id ∉ P.shared.submitted := by
  intro hmem
  obtain ⟨j, hid, hj⟩ := hI.submitter _ hmem
  have hij := hI.owner j i hid (SafePc.passed_of_hasSubmitted hj) hpassed
  subst hij
  simp [hnot] at hj

theorem step (hI : SubmitsOnce order P) (hok : PassesAlone order P (i, e))
    (h : SafeStep true (order i) P.shared (P.task i) e t q) :
    SubmitsOnce order (P.resume i t q) := by
  refine ⟨hI.owner_resume hok h, hI.known_resume h, hI.kept_resume hok h, ?_, ?_⟩
  · intro k
    rcases h.submitted_eq with ⟨hsub, hp, hq⟩ | ⟨hsub, -⟩
    · have hnot := hI.not_mem_submitted (h.passed_of_submits rfl hp hq) hp
      rw [P.resume_shared, hsub, List.count_cons]
      by_cases hk : (order i).id = k
      · subst hk
        simp [List.count_eq_zero_of_not_mem hnot]
      · simpa [hk] using hI.count_le_one k
    · rw [P.resume_shared, hsub]
      exact hI.count_le_one k
  · intro k hk
    have hold : ∀ j, (P.task j).hasSubmitted = true →
        ((P.resume i t q).task j).hasSubmitted = true := by
      intro j hj
      by_cases hji : j = i
      · subst hji
        rw [P.resume_task_self]
        rcases h.submitted_eq with ⟨-, -, hq⟩ | ⟨-, hq⟩
        · exact hq
        · rw [hq, hj]
      · rwa [P.resume_task_of_ne hji]
    rw [P.resume_shared] at hk
    rcases h.submitted_eq with ⟨hsub, -, hq⟩ | ⟨hsub, -⟩
    · rw [hsub, List.mem_cons] at hk
      rcases hk with rfl | hk
      · exact ⟨i, rfl, by rwa [P.resume_task_self]⟩
      · obtain ⟨j, hid, hj⟩ := hI.submitter k hk
        exact ⟨j, hid, hold j hj⟩
    · rw [hsub] at hk
      obtain ⟨j, hid, hj⟩ := hI.submitter k hk
      exact ⟨j, hid, hold j hj⟩

end SubmitsOnce

/-- Every run whose calls pass their look-ups alone keeps the invariant. -/
theorem submitsOnce_of_run (order : ι → OrderRequest) {as : List (ι × SafeEvent)}
    {P : Pool ι ExecutorState SafePc}
    (hok : (safeMachine order).Guarded (PassesAlone order) safeStart as)
    (hrun : (safeMachine order).run safeStart as = some P) : SubmitsOnce order P := by
  refine (safeMachine order).guarded_run_invariant (PassesAlone order)
    (SubmitsOnce order) ?_ (submitsOnce_safeStart order) hok hrun
  rintro Q ⟨i, e⟩ R hI hoka hnext
  obtain ⟨t, q, hseg, rfl⟩ := Pool.machine_next_eq_some_iff.1 hnext
  exact hI.step hoka (safeStep_of_safeSegment hseg)

/-- In every schedule of concurrent calls in which a call passes its look-up only
while its id is neither tracked nor persisted, each id is submitted at most once. -/
theorem submitted_count_le_one (order : ι → OrderRequest) {as : List (ι × SafeEvent)}
    {P : Pool ι ExecutorState SafePc}
    (hok : (safeMachine order).Guarded (PassesAlone order) safeStart as)
    (hrun : (safeMachine order).run safeStart as = some P) (k : UUID) :
    P.shared.submitted.count k ≤ 1 :=
  (submitsOnce_of_run order hok hrun).count_le_one k

/-- The hypotheses hold in the run of a call that submits and of a second call with
the same id that is blocked. -/
theorem submitted_count_le_one_blocked_duplicate :
    ∃ P, (safeMachine fun _ : Bool => .market 7 .buy 1 .paper).run safeStart
        [(false, .call), (false, .lookupAnswers), (false, .resume), (true, .call),
          (false, .createCommits), (false, .resume)] = some P ∧
      P.shared.submitted.count 7 ≤ 1 := by
  refine Exists.imp (fun P hrun => ⟨hrun, ?_⟩) ⟨_, rfl⟩
  exact submitted_count_le_one _ (by decide) hrun 7

/-- Two calls with one id that both look the id up before either has resumed: both
pass, the second insertion hits the primary key and is logged only, and both
submit. No submission has failed, so nothing was released. -/
theorem submitted_twice :
    ¬ ∀ (as : List (Bool × SafeEvent)) (P : Pool Bool ExecutorState SafePc),
      (∀ a ∈ as, ∀ msg, a.2 ≠ .submitRaises msg) →
      (safeMachine fun _ => .market 7 .buy 1 .paper).run safeStart as = some P →
      P.shared.submitted.count 7 ≤ 1 := by
  intro h
  have htwice := h
    [(false, .call), (true, .call), (false, .lookupAnswers), (true, .lookupAnswers),
      (false, .resume), (true, .resume), (false, .createCommits), (true, .createFails),
      (false, .resume), (true, .resume)]
    _ (by simp) rfl
  exact absurd htwice (by decide)

end Sgr
