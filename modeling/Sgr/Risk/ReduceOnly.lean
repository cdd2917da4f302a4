import Mathlib.Data.Fintype.Basic
import Sgr.Accounting.Netting
import Sgr.Portfolio.Simulation
import Sgr.Risk.Closers

/-!
# Reduce-only fills

Neither the paper simulation nor the booking looks at the reduce-only flag, so what a
reduce-only fill does depends on what the other actors have done to the position since
it was read. It only shrinks a position when one is still open and nobody writes the
position while a partial close of it is booked.
-/

open Collection Concurrency Accounting

namespace Sgr

variable {ι : Type*} [DecidableEq ι]

/-- The pools of actors. -/
abbrev ActorPool (ι : Type*) := Pool ι PortfolioState ActorPc

/-- The symbol key of a submission. -/
def Submission.key (sub : Submission) : String := (sub.order 0).symbol.str

/-- The next step books the fill of a reduce-only order, or goes on booking it. -/
def ActorPc.booksReduceOnly : ActorPc → Bool
  | .executing sub _ _ => sub.reduceOnly
  | .booking sub _ _ _ => sub.reduceOnly
  | _ => false

/-- A step that books the fill of a reduce-only order leaves of each position something
between nothing and what was there. -/
def OnlyShrinks (cfg : ActorConfig) (job : ι → ActorJob) (P : ActorPool ι)
    (a : ι × ActorEvent) : Prop :=
  (P.task a.1).booksReduceOnly = true → ∀ Q, (actorMachine cfg job).next P a = some Q →
    ∀ key, Shrinks (P.shared.heldQuantity key) (Q.shared.heldQuantity key)

/-- The reduce-only close of a part of a position whose trade is being persisted. -/
def pendingPart : ActorPc → Option (FillCall × Position × CloseQuote)
  | .booking sub (.persistingTrade f existing q) _ _ =>
      if sub.reduceOnly = true ∧ ¬ q.full existing then some (f, existing, q) else none
  | _ => none

/-- The symbol whose slot a handler writes when it resumes. -/
def writtenKey (cfg : PortfolioConfig) : FillPc → Option String
  | .protecting f opened =>
      if (protectedPosition cfg f opened).isSome then some f.key else none
  | .persistingTrade f _ _ => some f.key
  | _ => none

/-- A reduce-only fill is booked only while its symbol has an open position, and no call
writes the slot of a symbol while another has to book the reduce-only close of a part of
that position. -/
def MeetsPosition (cfg : ActorConfig) (P : ActorPool ι) (a : ι × ActorEvent) : Prop :=
  match P.task a.1, a.2 with
  | .executing sub _ _, .simulated _ _ =>
      sub.reduceOnly = true → (P.shared.positions.get? sub.key).isSome
  | .booking _ pc _ _, .resume =>
      ∀ key ∈ writtenKey cfg.portfolio pc, ∀ j, j ≠ a.1 →
        ∀ w ∈ pendingPart (P.task j), w.1.key ≠ key
  | _, _ => True

instance [Fintype ι] (cfg : ActorConfig) (P : ActorPool ι) (a : ι × ActorEvent) :
    Decidable (MeetsPosition cfg P a) := by
  unfold MeetsPosition
  split <;> infer_instance

/-- The handler has opened a position. -/
def FillPc.opened : FillPc → Bool
  | .persistingOpen _ _ => true
  | .protecting _ _ => true
  | .persistingProtected => true
  | _ => false

/-- What a step of an actor does to the portfolio. -/
inductive ActorStep (cfg : ActorConfig) (job : ActorJob) (s : PortfolioState) :
    ActorPc → ActorEvent → PortfolioState → ActorPc → Prop
  | moved {pc pc' : ActorPc} {e : ActorEvent} (hpart : pendingPart pc' = none)
      (hbooking : ∀ sub p rest now, pc' ≠ .booking sub p rest now) :
      ActorStep cfg job s pc e s pc'
  | repriced {prices : String → Option ℚ} {e : ActorEvent} (n : ℕ) :
      ActorStep cfg job s .idle e (updatePrices prices s) (.persistingPrices n)
  | submitted {sub : Submission} {rest : List Position} {now : Timestamp}
      {ticker : Option Ticker} {ids : FillIds} {f : FillCall}
      (hfill : submittedFill cfg sub ticker ids = some f) :
      ActorStep cfg job s (.executing sub rest now) (.simulated ticker ids)
        (fillStart cfg.portfolio f s).1
        (bookingNext cfg job sub rest now (fillStart cfg.portfolio f s).2)
  | resumed {sub : Submission} {pc pc' : FillPc} {rest : List Position} {now : Timestamp}
      {t : PortfolioState} (hresume : fillResume cfg.portfolio s pc = some (t, pc')) :
      ActorStep cfg job s (.booking sub pc rest now) .resume t
        (bookingNext cfg job sub rest now pc')

section Segments

variable {cfg : ActorConfig}

/-- The control points between two orders. -/
inductive Between : ActorPc → Prop
  | done : Between .done
  | regime (p : Position) (rest : List Position) (now : Timestamp) :
      Between (.regime p rest now)
  | executing (sub : Submission) (rest : List Position) (now : Timestamp) :
      Between (.executing sub rest now)
  | deciding : Between .deciding

theorem between_holdingExit (p : Position) (rest : List Position) (now : Timestamp)
    {next : ActorPc} (h : Between next) : Between (holdingExit p rest now next) := by
  unfold holdingExit
  split
  · exact .executing _ _ _
  · exact h

theorem between_watchdogNext (now : Timestamp) (rest : List Position) :
    Between (watchdogNext cfg now rest) := by
  induction rest with
  | nil => exact .done
  | cons p rest ih =>
      unfold watchdogNext
      split
      · exact ih
      · split
        · exact .executing _ _ _
        · split
          · exact .regime _ _ _
          · exact between_holdingExit p rest now ih

theorem between_liquidatorNext (now : Timestamp) (rest : List Position) :
    Between (liquidatorNext now rest) := by
  cases rest
  · exact .done
  · exact .executing _ _ _

theorem between_nextOrder (now : Timestamp) (rest : List Position) (job : ActorJob) :
    Between (nextOrder cfg now rest job) := by
  cases job with
  | watchdog => exact between_watchdogNext now rest
  | liquidator => exact between_liquidatorNext now rest
  | cycle => exact .done
  | prices => exact .done

theorem Between.actorStep {pc' : ActorPc} (h : Between pc') (job : ActorJob)
    (s : PortfolioState) (pc : ActorPc) (e : ActorEvent) :
    ActorStep cfg job s pc e s pc' := by
  cases h with
  | done => exact .moved rfl (fun _ _ _ _ h => by cases h)
  | regime => exact .moved rfl (fun _ _ _ _ h => by cases h)
  | executing => exact .moved rfl (fun _ _ _ _ h => by cases h)
  | deciding => exact .moved rfl (fun _ _ _ _ h => by cases h)

theorem actorStep_of_actorSegment {job : ActorJob} {s t : PortfolioState}
    {pc pc' : ActorPc} {e : ActorEvent} (h : actorSegment cfg job s pc e = some (t, pc')) :
    ActorStep cfg job s pc e t pc' := by
  unfold actorSegment at h
  split at h
  · cases job with
    | watchdog =>
        dsimp only at h
        split at h
        · cases h
          exact Between.done.actorStep _ _ _ _
        · cases h
          exact (between_watchdogNext _ _).actorStep _ _ _ _
    | liquidator =>
        cases h
        exact (between_liquidatorNext _ _).actorStep _ _ _ _
    | cycle =>
        cases h
        exact Between.deciding.actorStep _ _ _ _
    | prices prices =>
        cases h
        exact .repriced _
  · split at h
    · cases h
      exact (Between.executing _ _ _).actorStep _ _ _ _
    · cases h
      exact (between_holdingExit _ _ _ (between_watchdogNext _ _)).actorStep _ _ _ _
  · cases h
    exact Between.done.actorStep _ _ _ _
  · cases h
    exact (Between.executing _ _ _).actorStep _ _ _ _
  · split at h
    · split at h
      · cases h
        exact (between_nextOrder _ _ _).actorStep _ _ _ _
      · rename_i f hfill
        cases h
        exact .submitted hfill
    · cases h
  · cases h
    exact (between_nextOrder _ _ _).actorStep _ _ _ _
  · obtain ⟨⟨u, p⟩, hresume, heq⟩ := Option.map_eq_some_iff.1 h
    cases heq
    exact .resumed hresume
  · cases h
    exact .moved rfl (fun _ _ _ _ h => by cases h)
  · cases h

end Segments

/-- The quantity of a close that has been read is not negative when it leaves a part. -/
theorem closeQuote_quantity_nonneg {existing : Position} {f : FillCall} {price : ℚ}
    {s : PortfolioState} (hprice : acceptedPrice f.result = some price)
    (hnot : ¬ (closeQuote existing f price s).full existing) :
    0 ≤ (closeQuote existing f price s).quantity := by
  have hpos := filledQuantity_pos_of_acceptedPrice hprice
  have hlt : (closeQuote existing f price s).quantity < existing.quantity := not_le.1 hnot
  have hquantity : (closeQuote existing f price s).quantity =
      min f.result.filledQuantity existing.quantity := rfl
  rw [hquantity] at hlt ⊢
  rcases min_lt_iff.1 hlt with hlt' | hlt'
  · rw [min_eq_left hlt'.le]
    exact hpos.le
  · exact absurd hlt' (lt_irrefl _)

theorem fillStart_of_isSome {cfg : PortfolioConfig} {f : FillCall} {s : PortfolioState}
    (h : (s.positions.get? f.key).isSome) :
    (fillStart cfg f s).1.positions = s.positions ∧ (fillStart cfg f s).2.opened = false := by
  unfold fillStart
  cases hprice : acceptedPrice f.result with
  | none => exact ⟨rfl, rfl⟩
  | some price =>
      obtain ⟨p, hget⟩ := Option.isSome_iff_exists.1 h
      rw [hget]
      dsimp only
      split
      · exact ⟨rfl, rfl⟩
      · exact ⟨s.updatePeak_positions, rfl⟩

/-- The stored position is as large as the one that a close has read. -/
def Matches (s : PortfolioState) (w : FillCall × Position × CloseQuote) : Prop :=
  0 ≤ w.2.2.quantity ∧ ∃ p, s.positions.get? w.1.key = some p ∧
    p.side = w.2.1.side ∧ p.quantity = w.2.1.quantity

/-- What is left of a position lies between nothing and the position. -/
theorem shrinks_reducedPosition {p existing : Position} {q : CloseQuote}
    (hside : p.side = existing.side) (hquantity : p.quantity = existing.quantity)
    (hpos : 0 ≤ q.quantity) (hnot : ¬ q.full existing) :
    Shrinks p.signedQuantity (reducedPosition existing q).signedQuantity := by
  have hlt : q.quantity < existing.quantity := not_le.1 hnot
  unfold Position.signedQuantity reducedPosition
  rw [hside, hquantity]
  cases existing.side with
  | long =>
      refine .inl ⟨?_, ?_⟩
      · exact sub_nonneg.2 hlt.le
      · exact sub_le_self _ hpos
  | short =>
      refine .inr ⟨?_, ?_⟩
      · exact neg_le_neg (sub_le_self _ hpos)
      · exact neg_nonpos.2 (sub_nonneg.2 hlt.le)
  | flat => exact .refl 0

/-- A handler that has not opened a position only shrinks what is held when it resumes,
if what a partial close has read is still there. -/
theorem shrinks_fillResume {cfg : PortfolioConfig} {s t : PortfolioState} {pc pc' : FillPc}
    (hresume : fillResume cfg s pc = some (t, pc')) (hopened : pc.opened = false)
    (hpart : ∀ f existing q, pc = .persistingTrade f existing q → ¬ q.full existing →
      Matches s (f, existing, q)) (key : String) :
    Shrinks (s.heldQuantity key) (t.heldQuantity key) := by
  have hstep : PortfolioStep cfg (.prices fun _ => none) s (.filling pc) t (.filling pc') :=
    portfolioStep_of_fillResume hresume
  generalize hpc : PortfolioPc.filling pc = old at hstep
  cases hstep with
  | ignored => exact .refl _
  | sameSide => cases hpc
  | dropped => cases hpc
  | opened => cases hpc
  | read => cases hpc
  | continued hbooks =>
      rw [PortfolioState.heldQuantity_congr (by rw [hbooks.positions])]
      exact .refl _
  | attached =>
      cases hpc
      cases hopened
  | raised => exact .refl _
  | @closed f existing q t hbook hfull =>
      have hstores := stores_bookClose hbook
      by_cases hk : key = f.key
      · rw [PortfolioState.heldQuantity_of_none (s := t)]
        · exact shrinks_zero _
        · rw [hstores, if_pos hk, CloseQuote.left, if_pos hfull]
      · rw [PortfolioState.heldQuantity_congr (t := t) (s := s)]
        · exact .refl _
        · rw [hstores, if_neg hk]
  | @reduced f existing q t hbook hnot =>
      cases hpc
      have hstores := stores_bookClose hbook
      obtain ⟨hpos, p, hget, hside, hquantity⟩ := hpart f existing q rfl hnot
      by_cases hk : key = f.key
      · subst hk
        rw [PortfolioState.heldQuantity_of_get? hget,
          PortfolioState.heldQuantity_of_get? (s := t)]
        · exact shrinks_reducedPosition hside hquantity hpos hnot
        · rw [hstores, if_pos rfl, CloseQuote.left, if_neg hnot]
      · rw [PortfolioState.heldQuantity_congr (t := t) (s := s)]
        · exact .refl _
        · rw [hstores, if_neg hk]
  | retired hbooks =>
      have hpositions : t.positions = s.positions := hbooks.positions
      rw [PortfolioState.heldQuantity_congr (by rw [hpositions])]
      exact .refl _

theorem Matches.of_slot {s t : PortfolioState} {w : FillCall × Position × CloseQuote}
    (h : Matches s w)
    (hslot : t.positions.get? w.1.key = s.positions.get? w.1.key ∨
      ∃ prices, t.positions.get? w.1.key =
        (s.positions.get? w.1.key).map (Position.atPrices prices)) : Matches t w := by
  obtain ⟨hpos, p, hget, hside, hquantity⟩ := h
  rcases hslot with hslot | ⟨prices, hslot⟩
  · exact ⟨hpos, p, hslot.trans hget, hside, hquantity⟩
  · have hterms := SameTerms.atPrices prices p
    refine ⟨hpos, p.atPrices prices, ?_, hterms.side.trans hside,
      hterms.quantity.trans hquantity⟩
    rw [hslot, hget, Option.map_some]

/-- The slot that a partial close has read survives a step that does not write it. -/
theorem Matches.portfolioStep {cfg : PortfolioConfig} {job : PortfolioJob}
    {s t : PortfolioState} {pc pc' : PortfolioPc} {w : FillCall × Position × CloseQuote}
    (h : Matches s w) (hstep : PortfolioStep cfg job s pc t pc')
    (hkey : ∀ p, pc = .filling p → ∀ key ∈ writtenKey cfg p, w.1.key ≠ key) :
    Matches t w := by
  rcases hstep.get?_cases w.1.key with hslot | hslot | hnone | ⟨f, opened, hpc, hq, hk⟩ |
    ⟨f, existing, q, hpc, hk⟩
  · exact h.of_slot (.inl hslot)
  · exact h.of_slot (.inr hslot)
  · obtain ⟨-, p, hget, -⟩ := h
    rw [hnone] at hget
    cases hget
  · refine absurd hk.symm (hkey _ hpc f.key ?_)
    rw [writtenKey, if_pos hq]
    rfl
  · exact absurd hk.symm (hkey _ hpc f.key rfl)

theorem key_of_submittedFill {cfg : ActorConfig} {sub : Submission}
    {ticker : Option Ticker} {ids : FillIds} {f : FillCall}
    (h : submittedFill cfg sub ticker ids = some f) : f.key = sub.key := by
  obtain ⟨r, hr, rfl⟩ := Option.map_eq_some_iff.1 h
  obtain ⟨-, -, hsymbol, -⟩ := simulateOrder_eq_some hr
  change r.symbol.str = sub.key
  rw [hsymbol]
  cases sub <;> rfl

/-- What the booking of a reduce-only fill relies on: it has not opened a position, and
what the close of a part has read is still there. -/
structure Sound (P : ActorPool ι) : Prop where
  notOpened : ∀ i sub pc rest now, P.task i = .booking sub pc rest now →
    sub.reduceOnly = true → pc.opened = false
  matched : ∀ i w, pendingPart (P.task i) = some w → Matches P.shared w

omit [DecidableEq ι] in
theorem sound_actorStart (s : PortfolioState) : Sound (ι := ι) (actorStart s) where
  notOpened _ _ _ _ _ h := by cases h
  matched _ _ h := by cases h

section Booking

variable {cfg : ActorConfig} {job : ActorJob} {sub : Submission} {rest : List Position}
  {now : Timestamp}

theorem bookingNext_cases (pc : FillPc) :
    bookingNext cfg job sub rest now pc = .booking sub pc rest now ∨
      Between (bookingNext cfg job sub rest now pc) := by
  cases pc with
  | returned => exact .inr (between_nextOrder now rest job)
  | raised =>
      refine .inr ?_
      cases job with
      | watchdog => exact between_watchdogNext now rest
      | _ => exact .done
  | _ => exact .inl rfl

theorem Between.pendingPart {pc : ActorPc} (h : Between pc) : pendingPart pc = none := by
  cases h <;> rfl

theorem Between.ne_booking {pc : ActorPc} (h : Between pc) (sub : Submission) (p : FillPc)
    (rest : List Position) (now : Timestamp) : pc ≠ .booking sub p rest now := by
  rintro rfl
  cases h

theorem pendingPart_bookingNext {pc : FillPc} {w : FillCall × Position × CloseQuote}
    (h : pendingPart (bookingNext cfg job sub rest now pc) = some w) :
    sub.reduceOnly = true ∧ pc = .persistingTrade w.1 w.2.1 w.2.2 ∧ ¬ w.2.2.full w.2.1 := by
  rcases @bookingNext_cases cfg job sub rest now pc with heq | hbetween
  · rw [heq] at h
    unfold pendingPart at h
    split at h
    · rename_i heq'
      cases heq'
      split at h
      · rename_i hcond
        cases h
        exact ⟨hcond.1, rfl, hcond.2⟩
      · cases h
    · cases h
  · rw [hbetween.pendingPart] at h
    cases h

theorem eq_of_bookingNext_eq_booking {pc pc' : FillPc} {sub' : Submission}
    {rest' : List Position} {now' : Timestamp}
    (h : bookingNext cfg job sub rest now pc = .booking sub' pc' rest' now') :
    sub' = sub ∧ pc' = pc := by
  rcases @bookingNext_cases cfg job sub rest now pc with heq | hbetween
  · rw [heq] at h
    cases h
    exact ⟨rfl, rfl⟩
  · exact absurd h (hbetween.ne_booking _ _ _ _)

end Booking

theorem opened_fillResume {cfg : PortfolioConfig} {s t : PortfolioState} {pc pc' : FillPc}
    (h : fillResume cfg s pc = some (t, pc')) (hopened : pc.opened = false) :
    pc'.opened = false := by
  cases pc with
  | persistingOpen => cases hopened
  | protecting => cases hopened
  | persistingProtected => cases hopened
  | persistingTrade f existing q =>
      simp only [fillResume] at h
      split at h
      · cases h
        rfl
      · cases h
        split <;> rfl
  | persistingPartial =>
      cases h
      rfl
  | persistingClose existing =>
      simp only [fillResume] at h
      split at h <;> cases h <;> rfl
  | unprotecting =>
      cases h
      rfl
  | returned => cases h
  | raised => cases h

/-- What the start of a handler has read is what is stored. -/
theorem matches_fillStart {cfg : PortfolioConfig} {f g : FillCall} {s : PortfolioState}
    {existing : Position} {q : CloseQuote}
    (h : (fillStart cfg f s).2 = .persistingTrade g existing q)
    (hnot : ¬ q.full existing) : Matches (fillStart cfg f s).1 (g, existing, q) := by
  have hstep := portfolioStep_of_fillStart cfg f s
  rw [h] at hstep
  generalize (fillStart cfg f s).1 = t at hstep
  cases hstep with
  | @read f price existing hjob hprice hget hside =>
      exact ⟨closeQuote_quantity_nonneg hprice hnot, existing, hget, rfl, rfl⟩
  | continued hbooks heffective => exact heffective.elim

/-- A resumed handler has no close left to book. -/
theorem ne_persistingTrade_of_fillResume {cfg : PortfolioConfig} {s t : PortfolioState}
    {pc : FillPc} {f : FillCall} {existing : Position} {q : CloseQuote} :
    fillResume cfg s pc ≠ some (t, .persistingTrade f existing q) := by
  intro h
  have hstep : PortfolioStep cfg (.prices fun _ => none) s (.filling pc) t
    (.filling (.persistingTrade f existing q)) := portfolioStep_of_fillResume h
  cases hstep with
  | continued _ _ heffective' => exact heffective'
  | retired _ hpc => rcases hpc with hpc | hpc <;> cases hpc

section Runs

variable {cfg : ActorConfig} {job : ι → ActorJob} {P Q : ActorPool ι} {a : ι × ActorEvent}

omit [DecidableEq ι] in
/-- The step of another actor leaves alone what a partial close has read. -/
theorem Sound.matches_of_ne (h : Sound P) (hok : MeetsPosition cfg P a)
    {t : PortfolioState} {pc : ActorPc}
    (hstep : ActorStep cfg (job a.1) P.shared (P.task a.1) a.2 t pc) {j : ι} (hj : j ≠ a.1)
    {w : FillCall × Position × CloseQuote} (hw : pendingPart (P.task j) = some w) :
    Matches t w := by
  have hmatches := h.matched j w hw
  unfold MeetsPosition at hok
  generalize P.task a.1 = old at hstep hok
  generalize a.2 = e at hstep hok
  cases hstep with
  | moved => exact hmatches
  | repriced => exact hmatches.of_slot (.inr ⟨_, get?_updatePrices _ _ _⟩)
  | submitted hfill =>
      refine hmatches.portfolioStep (portfolioStep_of_fillStart cfg.portfolio _ _) ?_
      intro p hp
      cases hp
  | @resumed sub p p' rest now t hresume =>
      have hfilling : PortfolioStep cfg.portfolio (.prices fun _ => none) P.shared
        (.filling p) t (.filling p') := portfolioStep_of_fillResume hresume
      refine hmatches.portfolioStep hfilling ?_
      intro p' hp key hkey
      cases hp
      exact hok key hkey j hj w hw

theorem Sound.step (h : Sound P) (hok : MeetsPosition cfg P a)
    (hnext : (actorMachine cfg job).next P a = some Q) : Sound Q := by
  obtain ⟨i, e⟩ := a
  obtain ⟨t, pc, hsegment, rfl⟩ := Pool.machine_next_eq_some_iff.1 hnext
  have hstep := actorStep_of_actorSegment hsegment
  have hother : ∀ j, j ≠ i → ∀ w, pendingPart (P.task j) = some w → Matches t w :=
    fun j hj w hw => h.matches_of_ne hok hstep hj hw
  have hopened := h.notOpened i
  unfold MeetsPosition at hok
  dsimp only at hok hstep
  generalize P.task i = old at hstep hok hopened
  constructor
  · refine Pool.forall_task_resume
      (φ := fun _ pc => ∀ sub p rest now, pc = ActorPc.booking sub p rest now →
        sub.reduceOnly = true → p.opened = false) (fun j _ => h.notOpened j) ?_
    intro sub' p' rest' now' hpc hreduce
    cases hstep with
    | moved _ hbooking => exact absurd hpc (hbooking _ _ _ _)
    | repriced => cases hpc
    | submitted hfill =>
        obtain ⟨rfl, rfl⟩ := eq_of_bookingNext_eq_booking hpc
        refine (fillStart_of_isSome ?_).2
        rw [key_of_submittedFill hfill]
        exact hok hreduce
    | @resumed sub p p' rest now t hresume =>
        obtain ⟨rfl, rfl⟩ := eq_of_bookingNext_eq_booking hpc
        exact opened_fillResume hresume (hopened _ _ _ _ rfl hreduce)
  · intro j w hw
    by_cases hj : j = i
    · subst hj
      rw [Pool.resume_task_self] at hw
      cases hstep with
      | moved hpart =>
          rw [hpart] at hw
          cases hw
      | repriced => cases hw
      | submitted hfill =>
          obtain ⟨-, hpc, hnot⟩ := pendingPart_bookingNext hw
          exact matches_fillStart hpc hnot
      | resumed hresume =>
          obtain ⟨-, rfl, -⟩ := pendingPart_bookingNext hw
          exact absurd hresume ne_persistingTrade_of_fillResume
    · rw [Pool.resume_task_of_ne P hj] at hw
      exact hother j hj w hw

/-- A step that the condition permits only shrinks when it books a reduce-only fill. -/
theorem Sound.onlyShrinks (h : Sound P) (hok : MeetsPosition cfg P a) :
    OnlyShrinks cfg job P a := by
  intro hbooks Q hnext key
  obtain ⟨i, e⟩ := a
  obtain ⟨t, pc, hsegment, rfl⟩ := Pool.machine_next_eq_some_iff.1 hnext
  have hstep := actorStep_of_actorSegment hsegment
  have hopened := h.notOpened i
  have hmatched := h.matched i
  unfold MeetsPosition at hok
  dsimp only at hok hstep hbooks
  generalize P.task i = old at hstep hok hbooks hopened hmatched
  rw [Pool.resume_shared]
  cases hstep with
  | moved => exact .refl _
  | repriced => cases hbooks
  | submitted hfill =>
      have hsome := hok hbooks
      rw [← key_of_submittedFill hfill] at hsome
      have hpositions := (@fillStart_of_isSome cfg.portfolio _ _ hsome).1
      rw [PortfolioState.heldQuantity_congr (by rw [hpositions])]
      exact .refl _
  | resumed hresume =>
      refine shrinks_fillResume hresume (hopened _ _ _ _ rfl hbooks) ?_ key
      rintro f existing q rfl hnot
      refine hmatched (f, existing, q) ?_
      rw [pendingPart, if_pos ⟨hbooks, hnot⟩]

/-- In a run in which each reduce-only fill meets an open position that nobody else
writes meanwhile, every step that books a reduce-only fill only shrinks what is held. -/
theorem guarded_onlyShrinks (cfg : ActorConfig) (job : ι → ActorJob) (s : PortfolioState)
    (as : List (ι × ActorEvent))
    (hok : (actorMachine cfg job).Guarded (MeetsPosition cfg) (actorStart s) as) :
    (actorMachine cfg job).Guarded (OnlyShrinks cfg job) (actorStart s) as :=
  Machine.Guarded.imp_of_invariant _ (fun _ _ _ hI hok hnext => hI.step hok hnext)
    (fun _ _ hI hok => hI.onlyShrinks hok) (sound_actorStart s) hok

end Runs

/-- The configuration of the examples below. -/
def paperActors : ActorConfig where
  portfolio := ⟨.paper, none⟩

/-- A portfolio with a long position whose target is reached. -/
def targetReached : PortfolioState :=
  let opened := openedPosition ⟨.paper, none⟩ (.btc 1 .buy 1 100) 100
  { PortfolioState.init 1000 none with
    positions := Dict.empty.set btcUsdt.str { opened with takeProfitPrice := some 90 } }

/-- A tick of the watchdog and a run of the liquidator. -/
def watchdogAndLiquidator : Bool → ActorJob
  | false => .watchdog
  | true => .liquidator

/-- The paper simulation fills an order at 100. -/
def filledAt100 (n : ℕ) : ActorEvent := .simulated (some ⟨100, 100⟩) ⟨n, n, n, 0, 0⟩

/-- The watchdog closes the position; the order of the liquidator is not filled. -/
theorem guarded_onlyShrinks_watchdogCloses :
    (actorMachine paperActors watchdogAndLiquidator).Guarded
      (OnlyShrinks paperActors watchdogAndLiquidator)
      (actorStart targetReached)
      [(false, .start 0), (true, .start 0), (false, filledAt100 7), (false, .resume),
        (true, .notFilled), (false, .resume)] :=
  guarded_onlyShrinks _ _ _ _ (by decide +kernel)

/-- Both close the position: the fill of the liquidator opens one on the other side. -/
theorem not_guarded_onlyShrinks :
    ¬ ∀ as, (actorMachine paperActors watchdogAndLiquidator).Guarded
      (OnlyShrinks paperActors watchdogAndLiquidator)
      (actorStart targetReached) as := by
  intro h
  have hrun : ((actorMachine paperActors watchdogAndLiquidator).run
      (actorStart targetReached) [(false, .start 0), (true, .start 0), (false, filledAt100 7),
        (false, .resume)]).any (fun P => (P.task true).booksReduceOnly &&
          ((actorMachine paperActors watchdogAndLiquidator).next P
            (true, filledAt100 8)).any fun Q =>
              decide (P.shared.heldQuantity btcUsdt.str = 0 ∧
                Q.shared.heldQuantity btcUsdt.str = -1)) = true := by
    decide +kernel
  obtain ⟨P, hP, hbooks⟩ := (Option.any_eq_true _ _).1 hrun
  rw [Bool.and_eq_true] at hbooks
  obtain ⟨Q, hQ, hheld⟩ := (Option.any_eq_true _ _).1 hbooks.2
  obtain ⟨hbefore, hafter⟩ := of_decide_eq_true hheld
  have hlast := (Machine.guarded_append_singleton _ (h (_ ++ [(true, filledAt100 8)])) hP).2
  have hshrinks := hlast hbooks.1 Q hQ btcUsdt.str
  rw [hbefore, hafter] at hshrinks
  exact absurd hshrinks (by decide +kernel)

end Sgr
