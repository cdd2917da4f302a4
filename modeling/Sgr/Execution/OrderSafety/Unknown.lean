import Sgr.Execution.OrderSafety.Restarts

/-!
# Orders with an unknown outcome

A submission that raises leaves it open whether the exchange holds the order, and the
call answers with a result that is marked as unknown. The marker is not a column of the
table: the row is updated to `REJECTED`, and a later call that finds it there answers with
a plain rejection. As long as the later calls find rows that are not settled so, no
answer loses the marker.

The lists `unknown` and `answers` are ghosts: the ids whose submission has raised, and
what the calls for such an id have answered.
-/

open Collection Concurrency

namespace Sgr

namespace SafePc

/-- What a call that has returned answers. -/
def answer : SafePc → Option OrderResult
  | .blocked r | .finished r => some r
  | _ => none

/-- The event is that of a submission that raises. -/
def raises : SafePc → SafeEvent → Bool
  | .submitting, .submitRaises _ => true
  | _, _ => false

end SafePc

/-- A process with the ids whose submission has raised, and the answers to calls for
them. -/
structure OutcomeHistory where
  process : Process
  unknown : List UUID
  answers : List (UUID × OrderResult)

namespace OutcomeHistory

/-- The history before any submission has raised. -/
def init (s : ExecutorState) : OutcomeHistory := ⟨⟨s, none⟩, [], []⟩

/-- The ids after a segment of a call for `o`. -/
def unknownAfter (A : OutcomeHistory) (o : OrderRequest) (p : SafePc) (e : SafeEvent) :
    List UUID :=
  if p.raises e then o.id :: A.unknown else A.unknown

/-- The history after a segment of a call for `o`. -/
def advance (A : OutcomeHistory) (o : OrderRequest) (p : SafePc) (e : SafeEvent)
    (s : ExecutorState) (q : SafePc) : OutcomeHistory where
  process := Process.advance o s q
  unknown := A.unknownAfter o p e
  answers :=
    match q.answer with
    | some r => if o.id ∈ A.unknownAfter o p e then (o.id, r) :: A.answers else A.answers
    | none => A.answers

end OutcomeHistory

/-- Histories of one process and its successors, with or without a table. -/
def outcomeHistory (repo : Bool) : Machine OutcomeHistory HistoryAction where
  next A a :=
    match A.process.current, a with
    | some (o, p), .wake e =>
        (safeSegment repo o A.process.state p e).map fun r => A.advance o p e r.1 r.2
    | _, a => (history.next A.process a).map fun P => { A with process := P }

/-- With a table the processes of such a history are those of `history`. -/
theorem next_history_of_outcomeHistory {A B : OutcomeHistory} {a : HistoryAction}
    (h : (outcomeHistory true).next A a = some B) :
    history.next A.process a = some B.process := by
  obtain ⟨⟨s, current⟩, unknown, answers⟩ := A
  have hmap : ∀ {P : Option Process} {B : OutcomeHistory},
      P.map (fun P => OutcomeHistory.mk P unknown answers) = some B → P = some B.process := by
    intro P B h
    obtain ⟨Q, rfl, rfl⟩ := Option.map_eq_some_iff.1 h
    rfl
  cases a with
  | wake e =>
      cases current with
      | none => exact hmap h
      | some c =>
          obtain ⟨⟨t, q⟩, hseg, rfl⟩ := Option.map_eq_some_iff.1 h
          exact Option.map_eq_some_iff.2 ⟨(t, q), hseg, rfl⟩
  | begin o => cases current <;> exact hmap h
  | crash => cases current <;> exact hmap h
  | release k => cases current <;> exact hmap h

/-- A rejection that says that the outcome is unknown, or no rejection. -/
def OrderResult.Marked (r : OrderResult) : Prop :=
  r.status = .rejected → r.rawResponse.unknown = true

instance (r : OrderResult) : Decidable r.Marked :=
  inferInstanceAs (Decidable (_ → _))

/-- No call for an id whose submission has raised has answered with a plain
rejection. -/
def OutcomeHistory.Sticky (A : OutcomeHistory) : Prop := ∀ a ∈ A.answers, a.2.Marked

instance (A : OutcomeHistory) : Decidable A.Sticky :=
  inferInstanceAs (Decidable (∀ a ∈ A.answers, a.2.Marked))

/-- The condition on a step under which the marker is not lost: a call for an id whose
submission has raised has a table, its look-up is answered, and it finds a row whose
status is not `REJECTED`. -/
def FindsUnsettledRow (repo : Bool) (A : OutcomeHistory) (a : HistoryAction) : Prop :=
  match A.process.current, a with
  | some (o, .idle), .wake .call => o.id ∈ A.unknown → repo = true
  | some (o, .lookup), .wake .lookupAnswers =>
      o.id ∈ A.unknown →
        (A.process.state.orders o.id).any (fun row => row.status ≠ .rejected) = true
  | some (o, .lookup), .wake .lookupFails => o.id ∉ A.unknown
  | _, _ => True

instance (repo : Bool) (A : OutcomeHistory) (a : HistoryAction) :
    Decidable (FindsUnsettledRow repo A a) := by
  obtain ⟨⟨s, current⟩, unknown, answers⟩ := A
  cases current with
  | none => exact isTrue trivial
  | some c =>
      obtain ⟨o, p⟩ := c
      cases a with
      | wake e =>
          cases p <;> cases e <;> first
            | exact isTrue trivial
            | exact inferInstanceAs (Decidable (_ → _))
      | _ => cases p <;> exact isTrue trivial

/-- What the control point of a call says when the submission of its id has raised. -/
def SafePc.Recalls : SafePc → Prop
  | .idle | .lookup => True
  | .lookedUp (some row) => row.status ≠ .rejected
  | .persistFinal r raised | .finalPersisted r raised => raised = true ∧ r.Marked
  | _ => False

theorem SafePc.Recalls.answer_eq_none {p : SafePc} (h : p.Recalls) : p.answer = none := by
  cases p <;> first | rfl | exact h.elim

theorem SafePc.done_of_answer {p : SafePc} {r : OrderResult} (h : p.answer = some r) :
    p.done = true := by
  cases p with
  | blocked _ => rfl
  | finished _ => rfl
  | _ => cases h

/-- The answers are marked, a running call for an id whose submission has raised recalls
it, and such an id is tracked only while the call that has raised still has to drop it. -/
structure Remembers (A : OutcomeHistory) : Prop where
  sticky : A.Sticky
  running : ∀ o p, A.process.current = some (o, p) → o.id ∈ A.unknown → p.Recalls
  untracked : ∀ k ∈ A.unknown, A.process.state.tracked k →
    ∃ o p, A.process.current = some (o, p) ∧ o.id = k ∧ p.willDrop = true

theorem remembers_init (s : ExecutorState) : Remembers (.init s) where
  sticky _ h := by cases h
  running _ _ h := by cases h
  untracked _ h := by cases h

theorem marked_makeUnknownResult (o : OrderRequest) (error : String) :
    (makeUnknownResult o error).Marked := fun _ => rfl

theorem marked_recoveredResult {row : OrderRow} (o : OrderRequest)
    (h : row.status ≠ .rejected) : (recoveredResult row o).Marked := by
  unfold recoveredResult
  split
  · exact fun hstatus => absurd hstatus h
  · exact marked_makeUnknownResult o _

namespace Remembers

variable {repo : Bool} {A : OutcomeHistory} {o : OrderRequest} {p q : SafePc}
  {e : SafeEvent} {t : ExecutorState}

/-- A segment of a call for an id whose submission has raised before. -/
theorem recalls (hI : Remembers A) (hcur : A.process.current = some (o, p))
    (hok : FindsUnsettledRow repo A (.wake e))
    (h : SafeStep repo o A.process.state p e t q) (hmem : o.id ∈ A.unknown) :
    (q.Recalls ∨ ∃ r, q.answer = some r ∧ r.Marked) ∧
      (t.tracked o.id → q.done = false ∧ q.willDrop = true) := by
  have hp : p.Recalls := hI.running o p hcur hmem
  have hdrop : A.process.state.tracked o.id → p.willDrop = true := by
    intro htracked
    obtain ⟨o', p', hcur', -, hdrop⟩ := hI.untracked o.id hmem htracked
    rw [hcur] at hcur'
    cases hcur'
    exact hdrop
  unfold FindsUnsettledRow at hok
  rw [hcur] at hok
  cases h with
  | callBlocked cached hget =>
      have htracked : A.process.state.tracked o.id := by
        rw [ExecutorState.tracked, hget]
        rfl
      cases hdrop htracked
  | callLookup hget hrepo => exact ⟨.inl trivial, fun ht => by cases hdrop ht⟩
  | callSubmit hget hrepo => cases (hok hmem).symm.trans hrepo
  | lookupAnswers =>
      obtain ⟨row, hrow, hstatus⟩ := (Option.any_eq_true _ _).1 (hok hmem)
      refine ⟨.inl ?_, fun ht => by cases hdrop ht⟩
      rw [hrow]
      have hne : row.status ≠ .rejected := of_decide_eq_true hstatus
      exact hne
  | lookupFails => exact absurd hmem hok
  | recovered row =>
      exact ⟨.inr ⟨_, rfl, marked_recoveredResult o hp⟩, fun ht => by cases hdrop ht⟩
  | accepted => exact hp.elim
  | createCommits _ => exact hp.elim
  | createFails => exact hp.elim
  | submits => exact hp.elim
  | submitReturns _ => exact hp.elim
  | submitRaises _ _ => exact hp.elim
  | submitRaisesDrops _ _ => exact hp.elim
  | updateCommits r raised => exact ⟨.inl hp, fun _ => ⟨rfl, hp.1⟩⟩
  | updateFails r raised => exact ⟨.inl hp, fun _ => ⟨rfl, hp.1⟩⟩
  | returns r => cases hp.1
  | dropsAndReturns r =>
      refine ⟨.inr ⟨r, rfl, hp.2⟩, fun ht => ?_⟩
      simp [ExecutorState.tracked] at ht

/-- A segment of a call for an id whose submission has not raised before. -/
theorem raises_cases (h : SafeStep repo o A.process.state p e t q)
    (hraises : p.raises e = true) :
    (q.Recalls ∨ ∃ r, q.answer = some r ∧ r.Marked) ∧
      (t.tracked o.id → q.done = false ∧ q.willDrop = true) := by
  cases h with
  | submitRaises msg _ =>
      exact ⟨.inl ⟨rfl, marked_makeUnknownResult o msg⟩, fun _ => ⟨rfl, rfl⟩⟩
  | submitRaisesDrops msg _ =>
      refine ⟨.inr ⟨_, rfl, marked_makeUnknownResult o msg⟩, fun ht => ?_⟩
      simp [ExecutorState.tracked] at ht
  | _ => cases hraises

theorem wake (hI : Remembers A) (hcur : A.process.current = some (o, p))
    (hok : FindsUnsettledRow repo A (.wake e))
    (h : SafeStep repo o A.process.state p e t q) : Remembers (A.advance o p e t q) := by
  have hcase : o.id ∈ A.unknownAfter o p e →
      (q.Recalls ∨ ∃ r, q.answer = some r ∧ r.Marked) ∧
        (t.tracked o.id → q.done = false ∧ q.willDrop = true) := by
    intro hmem
    by_cases hraises : p.raises e = true
    · exact raises_cases h hraises
    · rw [OutcomeHistory.unknownAfter, if_neg hraises] at hmem
      exact hI.recalls hcur hok h hmem
  refine ⟨?_, ?_, ?_⟩
  · unfold OutcomeHistory.Sticky OutcomeHistory.advance
    dsimp only
    split
    next r hr =>
      split
      next hmem =>
        intro a ha
        rcases List.mem_cons.1 ha with rfl | ha
        · rcases (hcase hmem).1 with hrecalls | ⟨r', hr', hmarked⟩
          · rw [hrecalls.answer_eq_none] at hr
            cases hr
          · rw [hr] at hr'
            cases hr'
            exact hmarked
        · exact hI.sticky a ha
      next => exact hI.sticky
    next => exact hI.sticky
  · intro o' p' hcur' hmem
    have hnew : q.done = false ∧ o = o' ∧ q = p' := by
      cases hq : q.done <;> simp_all [OutcomeHistory.advance, Process.advance]
    obtain ⟨hdone, rfl, rfl⟩ := hnew
    rcases (hcase hmem).1 with hrecalls | ⟨r, hr, -⟩
    · exact hrecalls
    · rw [SafePc.done_of_answer hr] at hdone
      cases hdone
  · intro k hmem htracked
    by_cases hk : k = o.id
    · subst hk
      obtain ⟨hdone, hdrop⟩ := (hcase hmem).2 htracked
      refine ⟨o, q, ?_, rfl, hdrop⟩
      change (if q.done then none else some (o, q)) = some (o, q)
      rw [hdone]
      rfl
    · -- the id of another call is not tracked, since this call is the one that runs
      have hold : k ∈ A.unknown := by
        have hmem' : k ∈ A.unknownAfter o p e := hmem
        unfold OutcomeHistory.unknownAfter at hmem'
        split at hmem'
        · exact (List.mem_cons.1 hmem').resolve_left hk
        · exact hmem'
      obtain ⟨o', p', hcur', hid, -⟩ := hI.untracked k hold ((h.tracked_iff_of_ne hk).1 htracked)
      rw [hcur] at hcur'
      cases hcur'
      exact absurd hid.symm hk

/-- The other steps of a history neither run a call nor start the tracking of an id. -/
theorem of_idle (hI : Remembers A) {P : Process}
    (hcur : P.current = none ∨ ∃ o, P.current = some (o, .idle))
    (htracked : ∀ k, P.state.tracked k → A.process.current = none ∧ A.process.state.tracked k) :
    Remembers { A with process := P } where
  sticky := hI.sticky
  running o p hp _ := by
    rcases hcur with hnone | ⟨o', hsome⟩
    · rw [hnone] at hp
      cases hp
    · rw [hsome] at hp
      cases hp
      trivial
  untracked k hk hk' := by
    obtain ⟨hnone, hold⟩ := htracked k hk'
    obtain ⟨o, p, hsome, -⟩ := hI.untracked k hk hold
    rw [hnone] at hsome
    cases hsome

theorem step {B : OutcomeHistory} {a : HistoryAction} (hI : Remembers A)
    (hok : FindsUnsettledRow repo A a) (h : (outcomeHistory repo).next A a = some B) :
    Remembers B := by
  obtain ⟨⟨s, current⟩, unknown, answers⟩ := A
  cases a with
  | wake e =>
      cases current with
      | none => cases h
      | some c =>
          obtain ⟨⟨t, q⟩, hseg, rfl⟩ := Option.map_eq_some_iff.1 h
          exact hI.wake rfl hok (safeStep_of_safeSegment hseg)
  | begin o =>
      cases current with
      | some c => cases h
      | none =>
          cases h
          exact hI.of_idle (.inr ⟨o, rfl⟩) fun k hk => ⟨rfl, hk⟩
  | crash =>
      have hB : B = ⟨⟨s.restart, none⟩, unknown, answers⟩ := by
        cases current <;> exact (Option.some.inj h).symm
      subst hB
      exact hI.of_idle (.inl rfl) fun k hk => by cases hk
  | release k =>
      cases current with
      | some c => cases h
      | none =>
          cases h
          refine hI.of_idle (.inl rfl) fun k' hk' => ⟨rfl, ?_⟩
          rw [ExecutorState.tracked, ExecutorState.release_inFlight, Dict.get?_erase] at hk'
          split at hk'
          · cases hk'
          · exact hk'

end Remembers

/-- Over every history in which the calls for an id whose submission has raised find a
row that is not `REJECTED`, no answer to them is a rejection without the marker. -/
theorem sticky_of_findsUnsettledRow (repo : Bool) (s : ExecutorState)
    {as : List HistoryAction} {A : OutcomeHistory}
    (hok : (outcomeHistory repo).Guarded (FindsUnsettledRow repo) (.init s) as)
    (hrun : (outcomeHistory repo).run (.init s) as = some A) : A.Sticky :=
  ((outcomeHistory repo).guarded_run_invariant (FindsUnsettledRow repo) Remembers
    (fun _ _ _ hI hok h => hI.step hok h) (remembers_init s) hok hrun).sticky

/-- A call whose submission has raised and whose update of the row has failed, a restart,
and a retry that finds the pending row. -/
theorem sticky_of_findsUnsettledRow_pending :
    ∃ A, (outcomeHistory true).run (.init .init)
        [.begin (.market 7 .buy 1 .paper), .wake .call, .wake .lookupAnswers, .wake .resume,
          .wake .createCommits, .wake .resume, .wake (.submitRaises "timeout"),
          .wake .updateFails, .wake .resume, .crash, .begin (.market 7 .buy 1 .paper),
          .wake .call, .wake .lookupAnswers, .wake .resume] = some A ∧ A.Sticky := by
  refine Exists.imp (fun A hrun => ⟨hrun, ?_⟩) ⟨_, rfl⟩
  exact sticky_of_findsUnsettledRow true .init (by decide) hrun

/-- The same retry after an update that has committed: the row is `REJECTED`, and the
answer is a plain rejection. -/
theorem not_sticky :
    ¬ ∀ (as : List HistoryAction) (A : OutcomeHistory),
      (outcomeHistory true).run (.init .init) as = some A → A.Sticky := by
  intro h
  have hsticky := h
    [.begin (.market 7 .buy 1 .paper), .wake .call, .wake .lookupAnswers, .wake .resume,
      .wake .createCommits, .wake .resume, .wake (.submitRaises "timeout"),
      .wake .updateCommits, .wake .resume, .release 7, .begin (.market 7 .buy 1 .paper),
      .wake .call, .wake .lookupAnswers, .wake .resume]
    _ rfl
  exact absurd hsticky (by decide)

end Sgr
