import Sgr.Execution.Engine.Steps

/-!
# In-flight tracking over the whole life of a call

`execute` releases the id of its order in a `finally` block. A call that was answered
as a duplicate runs the same block, and so removes the entry of the call that owns
the order: `not_inFlightKept` is such a schedule. When no call runs its duplicate
check while another call with the same id is past its own, every submitted order
stays tracked with its last known result until its call returns.
-/

open Collection Concurrency

namespace Sgr

/-- Two results that `shutdown` treats alike. -/
structure SameOrder (e r : OrderResult) : Prop where
  status : e.status = r.status
  exchangeOrderId : e.exchangeOrderId = r.exchangeOrderId
  symbol : e.symbol = r.symbol

theorem SameOrder.refl (r : OrderResult) : SameOrder r r := ⟨rfl, rfl, rfl⟩

theorem SameOrder.attributed {e r : OrderResult} (o : OrderRequest) (h : SameOrder e r) :
    SameOrder e (attributed o r) :=
  ⟨h.status, h.exchangeOrderId, h.symbol⟩

namespace SafePc

/-- The result the exchange has given, before the call returns it. -/
def known : SafePc → Option OrderResult
  | .persistFinal r false | .finalPersisted r false => some r
  | _ => none

/-- The result of a submission that has raised. -/
def unknown : SafePc → Option OrderResult
  | .persistFinal r true | .finalPersisted r true => some r
  | _ => none

end SafePc

namespace CallPc

/-- The last result of the exchange that the call knows. -/
def known : CallPc → Option OrderResult
  | .safe _ p => p.known
  | p => p.late

theorem owns_of_known {p : CallPc} {r : OrderResult} (h : p.known = some r) :
    p.owns = true := by
  cases p with
  | safe a p => cases p <;> first | rfl | cases h
  | _ => exact owns_of_late h

theorem known_of_late {p : CallPc} {r : OrderResult} (h : p.late = some r) :
    p.known = some r := by
  cases p <;> first | exact h | cases h

/-- The call is about to run its duplicate checks or to act on their outcome. -/
def decides : CallPc → Bool
  | .safe _ .idle | .safe _ (.lookedUp _) => true
  | p => p.early

/-- The call has entered `_execute_internal`. -/
def entered (p : CallPc) : Bool := !p.early && !p.refused

end CallPc

/-- The map has an entry for a call that owns its id, with what the call knows, and a
failed submission is marked as unknown. -/
structure Kept (s : ExecutorState) (k : UUID) (p : CallPc) : Prop where
  entry : p.owns = true →
    ∃ e, s.inFlight.get? k = some e ∧ ∀ r, p.known = some r → SameOrder e r
  unknown : ∀ a q r, p = .safe a q → q.unknown = some r → r.rawResponse.unknown = true

theorem kept_of_not_owns {s : ExecutorState} {k : UUID} {p : CallPc}
    (h : p.owns = false) (hu : ∀ a q r, p = .safe a q → q.unknown ≠ some r) :
    Kept s k p where
  entry hp := by simp [h] at hp
  unknown a q r hp hq := absurd hq (hu a q r hp)

theorem kept_of_refused {s : ExecutorState} {k : UUID} {p : CallPc}
    (h : p.early = true ∨ p.refused = true) : Kept s k p := by
  refine kept_of_not_owns ?_ ?_
  · rcases h with h | h
    · exact CallPc.owns_eq_false_of_early h
    · exact CallPc.owns_eq_false_of_refused h
  · rintro a q r rfl
    rcases h with h | h <;> cases h

theorem kept_returned (s : ExecutorState) (k : UUID) (r : OrderResult) :
    Kept s k (.returned r) :=
  kept_of_not_owns rfl fun _ _ _ h => by cases h

/-- A call whose entry agrees with the result it goes on with is kept. -/
theorem Continues.kept {o : OrderRequest} {s t : EngineState} {r e : OrderResult}
    {q : CallPc} (h : Continues o s r t q)
    (hget : s.safety.inFlight.get? o.id = some e) (he : SameOrder e r) :
    Kept t.safety o.id q := by
  have hkept : ∀ {p : CallPc}, p.known = some r → (∀ a p', p ≠ .safe a p') →
      Kept s.safety o.id p := by
    intro p hp hsafe
    refine ⟨fun _ => ⟨e, hget, fun r' hr' => ?_⟩, fun a p' _ hp' => absurd hp' (hsafe a p')⟩
    rw [hp] at hr'
    exact Option.some.inj hr' ▸ he
  cases h with
  | publishing => exact hkept rfl fun _ _ h => by cases h
  | sleeping n => exact hkept rfl fun _ _ h => by cases h
  | cancelling => exact hkept rfl fun _ _ h => by cases h
  | persisting id => exact hkept rfl fun _ _ h => by cases h
  | returned => exact kept_returned _ _ r

theorem kept_handleResult_of_blocked {o : OrderRequest} {s : EngineState}
    {r : OrderResult} (h : (r.rawResponse.duplicate || r.rawResponse.unknown) = true) :
    Kept (handleResult o s r).1.safety o.id (handleResult o s r).2 := by
  rw [handleResult, if_pos h]
  exact kept_returned _ _ r

theorem kept_handleResult {o : OrderRequest} {s : EngineState} {r e : OrderResult}
    (hget : s.safety.inFlight.get? o.id = some e) (he : SameOrder e r) :
    Kept (handleResult o s r).1.safety o.id (handleResult o s r).2 := by
  obtain ⟨r', hr', h⟩ := continues_handleResult o s r
  refine h.kept hget ?_
  rcases hr' with rfl | rfl
  · exact he
  · exact he.attributed o

theorem recoveredResult_marked (row : OrderRow) (o : OrderRequest) :
    ((recoveredResult row o).rawResponse.duplicate ||
      (recoveredResult row o).rawResponse.unknown) = true := by
  unfold recoveredResult
  split
  · rfl
  · simp [makeUnknownResult]

/-- The write of the final result leaves the map as it is. -/
theorem Kept.finalPersisted {u v : ExecutorState} {k : UUID} {a : Amount} {r : OrderResult}
    {raised : Bool} (h : Kept u k (.safe a (.persistFinal r raised)))
    (hmap : v.inFlight = u.inFlight) : Kept v k (.safe a (.finalPersisted r raised)) := by
  obtain ⟨e, he, hknown⟩ := h.entry rfl
  rw [← hmap] at he
  refine ⟨fun _ => ⟨e, he, ?_⟩, ?_⟩
  · cases raised <;> exact hknown
  · rintro a' q' r' hq' hr'
    cases hq'
    cases raised with
    | true => exact h.unknown a _ r' rfl hr'
    | false => cases hr'

theorem SafeStep.kept {repo : Bool} {o : OrderRequest} {a : Amount} {s : EngineState}
    {u : ExecutorState} {p q : SafePc} {e : SafeEvent}
    (h : SafeStep repo (o.withAmount a) s.safety p e u q)
    (hp : Kept s.safety o.id (.safe a p)) :
    Kept (afterSafe o (s.withSafety u) a q).1.safety o.id
      (afterSafe o (s.withSafety u) a q).2 := by
  have hplain : ∀ {q : SafePc}, q.known = none → q.unknown = none →
      (∃ e, u.inFlight.get? o.id = some e) → Kept u o.id (.safe a q) := by
    rintro q hknown hunknown ⟨e, he⟩
    refine ⟨fun _ => ⟨e, he, fun r hr => ?_⟩, ?_⟩
    · rw [CallPc.known, hknown] at hr
      cases hr
    · rintro a' q' r hq' hr
      cases hq'
      rw [hunknown] at hr
      cases hr
  have hold : p.passed = true → ∃ e, s.safety.inFlight.get? o.id = some e := fun hp' => by
    obtain ⟨e, he, -⟩ := hp.entry hp'
    exact ⟨e, he⟩
  cases h with
  | callBlocked cached _ => exact kept_handleResult_of_blocked rfl
  | callLookup _ _ => exact kept_of_not_owns rfl fun _ _ _ h => by cases h; simp [SafePc.unknown]
  | callSubmit _ _ => exact hplain rfl rfl ⟨_, s.safety.inFlight.get?_set_self o.id _⟩
  | lookupAnswers => exact kept_of_not_owns rfl fun _ _ _ h => by cases h; simp [SafePc.unknown]
  | lookupFails => exact kept_of_not_owns rfl fun _ _ _ h => by cases h; simp [SafePc.unknown]
  | recovered row => exact kept_handleResult_of_blocked (recoveredResult_marked row _)
  | accepted => exact hplain rfl rfl ⟨_, s.safety.inFlight.get?_set_self o.id _⟩
  | createCommits _ => exact hplain rfl rfl (hold rfl)
  | createFails => exact hplain rfl rfl (hold rfl)
  | submits => exact hplain rfl rfl (hold rfl)
  | submitReturns r =>
      have hget : (s.safety.track o.id r).inFlight.get? o.id = some r :=
        s.safety.inFlight.get?_set_self o.id r
      cases repo with
      | true =>
          refine ⟨fun _ => ⟨r, hget, fun r' hr' => ?_⟩, ?_⟩
          · cases hr'
            exact .refl r
          · rintro a' q' r' hq' hr'
            cases hq'
            cases hr'
      | false => exact kept_handleResult (s := s.withSafety _) hget (.refl r)
  | submitRaises msg _ =>
      obtain ⟨e, he⟩ := hold rfl
      refine ⟨fun _ => ⟨e, he, fun r' hr' => by cases hr'⟩, ?_⟩
      rintro a' q' r' hq' hr'
      cases hq'
      cases hr'
      rfl
  | submitRaisesDrops msg _ => exact kept_handleResult_of_blocked rfl
  | updateCommits r raised => exact hp.finalPersisted (s.safety.updateStatus_inFlight o.id r)
  | updateFails r raised => exact hp.finalPersisted rfl
  | returns r =>
      obtain ⟨e, he, hknown⟩ := hp.entry rfl
      exact kept_handleResult (s := s.withSafety _) he (hknown r rfl)
  | dropsAndReturns r =>
      refine kept_handleResult_of_blocked ?_
      simp [hp.unknown a _ r rfl rfl]

theorem kept_executeInternal (cfg : EngineConfig) (o : OrderRequest) (s : EngineState)
    (a : Amount) :
    Kept (executeInternal cfg o s a).1.safety o.id (executeInternal cfg o s a).2 := by
  unfold executeInternal
  split
  · exact (safeStep_safeCall cfg.repo (o.withAmount a) s.safety).kept
      (kept_of_not_owns rfl fun _ _ _ h => by cases h; simp [SafePc.unknown])
  · exact kept_returned _ _ _

/-- A segment of a call keeps the call's own entry. -/
theorem CallStep.kept {cfg : EngineConfig} {o : OrderRequest} {s t : EngineState}
    {p q : CallPc} (h : CallStep cfg o s p t q) (hp : Kept s.safety o.id p) :
    Kept t.safety o.id q := by
  cases h with
  | gate _ hq _ => exact kept_of_refused hq
  | enter a _ _ => exact kept_executeInternal cfg o _ a
  | safe h => exact h.kept hp
  | goesOn hlate h =>
      obtain ⟨e, he, hsame⟩ := hp.entry (CallPc.owns_of_late hlate)
      exact h.kept he (hsame _ (CallPc.known_of_late hlate))
  | polls =>
      obtain ⟨e, he, hsame⟩ := hp.entry rfl
      exact ⟨fun _ => ⟨e, he, hsame⟩, fun _ _ _ h => by cases h⟩
  | updates h =>
      obtain ⟨e, he, -⟩ := hp.entry rfl
      exact h.kept (e := _) (ExecutorState.get?_updateInflight_self _ _ _ he) (.refl _)
  | aborts => exact kept_returned _ _ _
  | stores hu =>
      obtain ⟨e, he, hsame⟩ := hp.entry rfl
      refine ⟨fun _ => ⟨e, ?_, hsame⟩, fun _ _ _ h => by cases h⟩
      rcases hu with rfl | rfl
      · exact he
      · exact (congrArg (Dict.get? · o.id) (ExecutorState.updateStatus_inFlight _ _ _)).trans he

section Frame

variable {cfg : EngineConfig} {o : OrderRequest} {s t : EngineState} {p q : CallPc}
  {k : UUID}

theorem get?_finish_of_ne (r : OrderResult) (hk : k ≠ o.id) :
    (finish o s r).1.safety.inFlight.get? k = s.safety.inFlight.get? k :=
  s.safety.inFlight.get?_erase_of_ne hk

theorem Continues.get?_of_ne {r : OrderResult} (h : Continues o s r t q) (hk : k ≠ o.id) :
    t.safety.inFlight.get? k = s.safety.inFlight.get? k := by
  cases h with
  | returned => exact get?_finish_of_ne r hk
  | _ => rfl

theorem get?_afterSafe_of_ne (a : Amount) (p : SafePc) (hk : k ≠ o.id) :
    (afterSafe o s a p).1.safety.inFlight.get? k = s.safety.inFlight.get? k := by
  refine afterSafe_cases o s (φ := fun c =>
    c.1.safety.inFlight.get? k = s.safety.inFlight.get? k) ?_ ?_
  · intro r t q h
    exact h.get?_of_ne hk
  · exact fun _ => rfl

/-- A segment of a call leaves the entries of other ids alone. -/
theorem CallStep.get?_of_ne (h : CallStep cfg o s p t q) (hk : k ≠ o.id) :
    t.safety.inFlight.get? k = s.safety.inFlight.get? k := by
  cases h with
  | gate _ _ ht => rw [ht.safety]
  | enter a _ hu =>
      rw [← hu.safety]
      unfold executeInternal
      split
      · rw [get?_afterSafe_of_ne a _ hk]
        exact (safeStep_safeCall cfg.repo (o.withAmount a) _).get?_of_ne hk
      · exact get?_finish_of_ne _ hk
  | safe h => rw [get?_afterSafe_of_ne _ _ hk, EngineState.withSafety_safety, h.get?_of_ne hk]
  | goesOn _ h => exact h.get?_of_ne hk
  | polls => rfl
  | updates h =>
      rw [h.get?_of_ne hk]
      exact s.safety.get?_updateInflight_of_ne _ _ _ hk
  | aborts =>
      rw [get?_finish_of_ne _ hk]
      exact s.safety.get?_updateInflight_of_ne _ _ _ hk
  | stores hu =>
      rcases hu with rfl | rfl
      · rfl
      · exact congrArg (Dict.get? · k) (ExecutorState.updateStatus_inFlight _ _ _)

theorem Continues.entered {r : OrderResult} (h : Continues o s r t q) :
    q.entered = true := by
  cases h <;> rfl

theorem entered_afterSafe (o : OrderRequest) (s : EngineState) (a : Amount) (p : SafePc) :
    (afterSafe o s a p).2.entered = true := by
  refine afterSafe_cases o s (φ := fun c => c.2.entered = true) ?_ ?_
  · intro r t q h
    exact h.entered
  · exact fun _ => rfl

theorem entered_executeInternal (cfg : EngineConfig) (o : OrderRequest) (s : EngineState)
    (a : Amount) : (executeInternal cfg o s a).2.entered = true := by
  unfold executeInternal
  split
  · exact entered_afterSafe o _ a _
  · rfl

theorem CallPc.decides_of_early {p : CallPc} (h : p.early = true) : p.decides = true := by
  cases p <;> first | rfl | cases h

/-- A segment of a call that does not own its id, and neither enters the safe
executor nor acts on a look-up, leaves the map alone. -/
theorem CallStep.inFlight_eq (h : CallStep cfg o s p t q) (howns : p.owns = false)
    (hcheck : (p.decides && q.entered) = false) :
    t.safety.inFlight = s.safety.inFlight := by
  have hne : ¬ true = false := by decide
  cases h with
  | gate _ _ ht => rw [ht.safety]
  | enter a hp _ =>
      simp [CallPc.decides_of_early hp, entered_executeInternal] at hcheck
  | safe h =>
      rw [entered_afterSafe, Bool.and_true] at hcheck
      cases h with
      | lookupAnswers => rfl
      | lookupFails => rfl
      | _ =>
          first
            | exact absurd hcheck hne
            | exact absurd howns hne
  | goesOn hlate _ => simp [CallPc.owns_of_late hlate] at howns
  | _ => cases howns

/-- A call comes to own its id only when it enters the safe executor or acts on its
look-up. -/
theorem CallStep.owns_cases (h : CallStep cfg o s p t q) (hq : q.owns = true) :
    p.owns = true ∨ (p.decides && q.entered) = true := by
  cases h with
  | gate _ hgate _ =>
      rcases hgate with h | h
      · simp [CallPc.owns_eq_false_of_early h] at hq
      · simp [CallPc.owns_eq_false_of_refused h] at hq
  | enter a hp _ =>
      simp [CallPc.decides_of_early hp, entered_executeInternal]
  | safe h =>
      rw [entered_afterSafe, Bool.and_true]
      cases h with
      | lookupAnswers => cases hq
      | lookupFails => cases hq
      | _ => first | exact .inl rfl | exact .inr rfl
  | goesOn hlate _ => exact .inl (CallPc.owns_of_late hlate)
  | _ => exact .inl rfl

end Frame

namespace Job

/-- The id of the order that a task executes. -/
def id : Job → Option UUID
  | .execute o _ => some o.id
  | .trigger => none

end Job

namespace TaskPc

/-- The task is a call that owns its id. -/
def owns : TaskPc → Bool
  | .call p => p.owns
  | .trigger _ => false

/-- The task is a call whose order is submitted and that has not returned. -/
def holds : TaskPc → Bool
  | .call p => p.holds
  | .trigger _ => false

/-- The last result that the call knows. -/
def known : TaskPc → Option OrderResult
  | .call p => p.known
  | .trigger _ => none

/-- The task is a call before or at its duplicate checks. -/
def decides : TaskPc → Bool
  | .call p => p.decides
  | .trigger _ => false

/-- The task is a call in `_execute_internal`. -/
def entered : TaskPc → Bool
  | .call p => p.entered
  | .trigger _ => false

theorem owns_of_holds {p : TaskPc} (h : p.holds = true) : p.owns = true := by
  cases p with
  | call p => exact CallPc.owns_of_holds h
  | trigger p => cases h

theorem owns_of_known {p : TaskPc} {r : OrderResult} (h : p.known = some r) :
    p.owns = true := by
  cases p with
  | call p => exact CallPc.owns_of_known h
  | trigger p => cases h

end TaskPc

variable {ι : Type*} [DecidableEq ι]

/-- The condition on a step under which the tracking is kept: a call enters the safe
executor, or acts on its look-up, only while no other call with its id has passed
its own checks and not returned. -/
def ChecksAlone (cfg : EngineConfig) (job : ι → Job) (P : Pool ι EngineState TaskPc)
    (a : ι × TaskEvent) : Prop :=
  match (engineMachine cfg job).next P a with
  | some Q => ((P.task a.1).decides && (Q.task a.1).entered) = true →
      ∀ j, j ≠ a.1 → (job j).id = (job a.1).id → (P.task j).owns = false
  | none => True

instance [Fintype ι] (cfg : EngineConfig) (job : ι → Job) (P : Pool ι EngineState TaskPc)
    (a : ι × TaskEvent) : Decidable (ChecksAlone cfg job P a) := by
  unfold ChecksAlone
  split <;> infer_instance

/-- At most one call owns an id, and the map has its entry. -/
structure Tracks (job : ι → Job) (P : Pool ι EngineState TaskPc) : Prop where
  owner : ∀ i j k, (job i).id = some k → (job j).id = some k →
    (P.task i).owns = true → (P.task j).owns = true → i = j
  kept : ∀ i k p, (job i).id = some k → P.task i = .call p → Kept P.shared.safety k p

omit [DecidableEq ι] in
theorem tracks_engineStart (s : EngineState) (job : ι → Job) :
    Tracks job (engineStart s job) where
  owner i j k hi _ ho _ := by
    cases h : job i with
    | execute o b => simp [engineStart, h, Job.start, TaskPc.owns, CallPc.owns, CallPc.late] at ho
    | trigger => simp [h, Job.id] at hi
  kept i k p hi hp := by
    cases h : job i with
    | execute o b =>
        have hp' : p = .idle := by simpa [engineStart, h, Job.start, eq_comm] using hp
        subst hp'
        exact kept_of_refused (.inl rfl)
    | trigger => simp [h, Job.id] at hi

namespace Tracks

variable {cfg : EngineConfig} {job : ι → Job} {P : Pool ι EngineState TaskPc} {i : ι}
  {o : OrderRequest} {bypass : Bool} {p q : CallPc} {t : EngineState}

theorem call_step (hI : Tracks job P) (hjob : job i = .execute o bypass)
    (hp : P.task i = .call p) (h : CallStep cfg o P.shared p t q)
    (halone : (p.decides && q.entered) = true →
      ∀ j, j ≠ i → (job j).id = some o.id → (P.task j).owns = false) :
    Tracks job (P.resume i t (.call q)) := by
  have hid : (job i).id = some o.id := by rw [hjob, Job.id]
  -- when this call comes to own its id, or owns it already, no other call does
  have hother : ∀ j, j ≠ i → (job j).id = some o.id → (P.task j).owns = true →
      p.owns = false ∧ (p.decides && q.entered) = false := by
    intro j hj hjid hjo
    constructor
    · refine Bool.eq_false_iff.2 fun hpo => hj ?_
      exact hI.owner j i o.id hjid hid hjo (by rw [hp]; exact hpo)
    · refine Bool.eq_false_iff.2 fun hc => ?_
      simp [halone hc j hj hjid] at hjo
  constructor
  · intro a b k ha hb hao hbo
    have hlast : ∀ j, j ≠ i → (job j).id = some o.id → (P.task j).owns = true →
        q.owns = true → False := by
      intro j hj hjid hjo hq
      obtain ⟨hp', hc⟩ := hother j hj hjid hjo
      rcases h.owns_cases hq with h | h
      · simp [hp'] at h
      · simp [hc] at h
    by_cases hai : a = i
    · by_cases hbi : b = i
      · rw [hai, hbi]
      · subst hai
        rw [P.resume_task_self] at hao
        rw [P.resume_task_of_ne hbi] at hbo
        have hk : k = o.id := Option.some.inj (ha.symm.trans hid)
        exact (hlast b hbi (hk ▸ hb) hbo hao).elim
    · rw [P.resume_task_of_ne hai] at hao
      by_cases hbi : b = i
      · subst hbi
        rw [P.resume_task_self] at hbo
        have hk : k = o.id := Option.some.inj (hb.symm.trans hid)
        exact (hlast a hai (hk ▸ ha) hao hbo).elim
      · rw [P.resume_task_of_ne hbi] at hbo
        exact hI.owner a b k ha hb hao hbo
  · intro j k p' hjid hp'
    by_cases hji : j = i
    · subst hji
      rw [P.resume_task_self] at hp'
      have hk : k = o.id := Option.some.inj (hjid.symm.trans hid)
      cases hp'
      subst hk
      exact h.kept (hI.kept j o.id p hid hp)
    · rw [P.resume_task_of_ne hji] at hp'
      have hold := hI.kept j k p' hjid hp'
      refine ⟨fun hpo => ?_, hold.unknown⟩
      obtain ⟨e, he, hsame⟩ := hold.entry hpo
      refine ⟨e, ?_, hsame⟩
      rw [P.resume_shared]
      by_cases hk : k = o.id
      · subst hk
        obtain ⟨h1, h2⟩ := hother j hji hjid (by rw [hp']; exact hpo)
        rw [h.inFlight_eq h1 h2]
        exact he
      · rw [h.get?_of_ne hk]
        exact he

theorem trigger_step {p q : TriggerPc} {e : TriggerEvent} (hI : Tracks job P)
    (hjob : job i = .trigger) (h : triggerSegment P.shared p e = some (t, q)) :
    Tracks job (P.resume i t (.trigger q)) := by
  have hsafety : t.safety = P.shared.safety := by
    rcases triggerSegment_cases h with ⟨-, -, rfl⟩ | rfl <;> rfl
  have hne : ∀ {j k}, (job j).id = some k → j ≠ i := by
    rintro j k hid rfl
    rw [hjob] at hid
    cases hid
  constructor
  · intro a b k ha hb hao hbo
    rw [P.resume_task_of_ne (hne ha)] at hao
    rw [P.resume_task_of_ne (hne hb)] at hbo
    exact hI.owner a b k ha hb hao hbo
  · intro j k p' hjid hp'
    rw [P.resume_task_of_ne (hne hjid)] at hp'
    rw [P.resume_shared, hsafety]
    exact hI.kept j k p' hjid hp'

theorem step {Q : Pool ι EngineState TaskPc} {a : ι × TaskEvent} (hI : Tracks job P)
    (hok : ChecksAlone cfg job P a) (h : (engineMachine cfg job).next P a = some Q) :
    Tracks job Q := by
  obtain ⟨i, e⟩ := a
  unfold ChecksAlone at hok
  rw [h] at hok
  obtain ⟨t, q, hseg, rfl⟩ := Pool.machine_next_eq_some_iff.1 h
  cases hjob : job i with
  | execute o bypass =>
      rw [hjob] at hseg
      obtain ⟨p, e', q', hp, rfl, rfl, hcall⟩ := segment_execute_eq_some hseg
      refine hI.call_step hjob hp (callStep_of_callSegment hcall) fun hc j hj hid => ?_
      refine hok ?_ j hj (by rw [hid, hjob, Job.id])
      rw [P.resume_task_self, hp]
      exact hc
  | trigger =>
      rw [hjob] at hseg
      obtain ⟨p, e', q', -, rfl, rfl, htrigger⟩ := segment_trigger_eq_some hseg
      exact hI.trigger_step hjob htrigger

end Tracks

/-- Every run in which calls check alone keeps the invariant. -/
theorem tracks_of_run (cfg : EngineConfig) (job : ι → Job) {s : EngineState}
    {as : List (ι × TaskEvent)} {P : Pool ι EngineState TaskPc}
    (hok : (engineMachine cfg job).Guarded (ChecksAlone cfg job) (engineStart s job) as)
    (hrun : (engineMachine cfg job).run (engineStart s job) as = some P) :
    Tracks job P :=
  (engineMachine cfg job).guarded_run_invariant (ChecksAlone cfg job) (Tracks job)
    (fun _ _ _ hI hok h => hI.step hok h) (tracks_engineStart s job) hok hrun

/-- From its submission until its call returns, an order is tracked, every further
call with its id would be answered as a duplicate and none has passed its checks, and
`shutdown` cancels the order by the last result that the call knows. -/
structure InFlightKept (job : ι → Job) (P : Pool ι EngineState TaskPc) : Prop where
  tracked : ∀ i k, (job i).id = some k → (P.task i).holds = true →
    P.shared.safety.tracked k
  duplicate : ∀ i k, (job i).id = some k → (P.task i).holds = true →
    ∀ repo o, o.id = k → ∃ cached,
      safeCall repo o P.shared.safety = (P.shared.safety, .blocked (makeDuplicateResult cached))
  alone : ∀ i j k, i ≠ j → (job i).id = some k → (job j).id = some k →
    (P.task i).holds = true → (P.task j).owns = false
  cancels : ∀ i k r, (job i).id = some k → (P.task i).known = some r →
    r.status.isFinal = false → r.exchangeOrderId ≠ "" →
    (r.symbol, r.exchangeOrderId) ∈ shutdownCancels P.shared.safety

namespace Tracks

variable {job : ι → Job} {P : Pool ι EngineState TaskPc}

omit [DecidableEq ι] in
theorem exists_entry (hI : Tracks job P) {i : ι} {k : UUID} (hid : (job i).id = some k)
    (howns : (P.task i).owns = true) :
    ∃ e, P.shared.safety.inFlight.get? k = some e ∧
      ∀ r, (P.task i).known = some r → SameOrder e r := by
  cases hp : P.task i with
  | call p =>
      rw [hp] at howns
      exact (hI.kept i k p hid hp).entry howns
  | trigger p =>
      rw [hp] at howns
      cases howns

omit [DecidableEq ι] in
/-- What the call knows is in the map, so `shutdown` finds it. -/
theorem mem_shutdownCancels (hI : Tracks job P) {i : ι} {k : UUID} {r : OrderResult}
    (hid : (job i).id = some k) (hknown : (P.task i).known = some r)
    (hfinal : r.status.isFinal = false) (hne : r.exchangeOrderId ≠ "") :
    (r.symbol, r.exchangeOrderId) ∈ shutdownCancels P.shared.safety := by
  have howns : (P.task i).owns = true := TaskPc.owns_of_known hknown
  obtain ⟨e, he, hsame⟩ := hI.exists_entry hid howns
  have hsame := hsame r hknown
  rw [shutdownCancels, List.mem_filterMap]
  refine ⟨e, (Dict.mem_values_iff _ e).2 ⟨k, he⟩, ?_⟩
  rw [hsame.status, hsame.exchangeOrderId, hsame.symbol, hfinal]
  simp [hne]

omit [DecidableEq ι] in
theorem inFlightKept (hI : Tracks job P) : InFlightKept job P where
  tracked i k hid hholds := by
    obtain ⟨e, he, -⟩ := hI.exists_entry hid (TaskPc.owns_of_holds hholds)
    simp [ExecutorState.tracked, he]
  duplicate i k hid hholds repo o ho := by
    obtain ⟨e, he, -⟩ := hI.exists_entry hid (TaskPc.owns_of_holds hholds)
    subst ho
    exact ⟨e, by rw [safeCall, he]⟩
  alone i j k hij hi hj hholds := by
    refine Bool.eq_false_iff.2 fun howns => hij ?_
    exact hI.owner i j k hi hj (TaskPc.owns_of_holds hholds) howns
  cancels i k r hid hknown hfinal hne := hI.mem_shutdownCancels hid hknown hfinal hne

end Tracks

/-- In every interleaving in which a call checks its id only while no other call with
that id is between its own checks and its return, submitted orders stay tracked until
their calls return. -/
theorem inFlightKept_of_checksAlone (cfg : EngineConfig) (job : ι → Job)
    (s : EngineState) {as : List (ι × TaskEvent)} {P : Pool ι EngineState TaskPc}
    (hok : (engineMachine cfg job).Guarded (ChecksAlone cfg job) (engineStart s job) as)
    (hrun : (engineMachine cfg job).run (engineStart s job) as = some P) :
    InFlightKept job P :=
  (tracks_of_run cfg job hok hrun).inFlightKept

/-- A PAPER engine without an order repository. -/
def paperEngine : EngineConfig where
  mode := .paper
  repo := false
  pool _ := true

/-- A call starts. -/
def callStarts (i : Bool) : Bool × TaskEvent :=
  (i, .call (.call (fun _ => none) fun _ => none))

/-- The exchange answers that it has no limits. -/
def limitsKnown (i : Bool) : Bool × TaskEvent :=
  (i, .call (.limitsAnswer (.ok (.unlimited .binance ["BTC/USDT"]))))

/-- The events that take a reduce-only PAPER order into the safe executor. -/
def passGates (i : Bool) : List (Bool × TaskEvent) := [callStarts i, limitsKnown i]

/-- The exchange accepts the order of the examples and leaves it open. -/
def openResult : OrderResult :=
  { placeholder (.closing 7 .sell 1 .paper) with
    status := .submitted
    exchangeOrderId := "X" }

/-- An order is submitted, stays open and is monitored. -/
theorem inFlightKept_of_checksAlone_monitoring :
    ∃ P, (engineMachine paperEngine fun _ : Bool => .execute (.closing 7 .sell 1 .paper) false).run
          (engineStart (.init none) fun _ => .execute (.closing 7 .sell 1 .paper) false)
          (passGates false ++ [(false, .call (.safe (.submitReturns openResult)))]) = some P ∧
      InFlightKept (fun _ => .execute (.closing 7 .sell 1 .paper) false) P := by
  refine Exists.imp (fun P hrun => ⟨hrun, ?_⟩) ⟨_, rfl⟩
  exact inFlightKept_of_checksAlone _ _ _ (by decide +kernel) hrun

/-- Two calls with one id: the second is blocked as a duplicate, and its `finally`
block removes the entry of the first, whose order is being submitted. -/
theorem not_inFlightKept :
    ¬ ∀ (as : List (Bool × TaskEvent)) (P : Pool Bool EngineState TaskPc),
      (engineMachine paperEngine fun _ => .execute (.closing 7 .sell 1 .paper) false).run
        (engineStart (.init none) fun _ => .execute (.closing 7 .sell 1 .paper) false) as =
          some P →
      InFlightKept (fun _ => .execute (.closing 7 .sell 1 .paper) false) P := by
  intro h
  have hkept := h (passGates false ++ passGates true) _ rfl
  exact absurd (hkept.tracked false 7 rfl rfl) (by decide +kernel)

end Sgr
