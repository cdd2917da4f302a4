import Sgr.Risk.ReduceOnly

/-!
# One tick of the watchdog

`check_positions_once` goes over a copy of the positions and awaits the regime, the order and
the booking of each in turn, while the other actors trade. What it submits does not depend on
them: it is what a plain pass over the copy submits on the same answers of the feature store,
and no fill that fails and no handler that raises makes it skip a position.
-/

open Collection Concurrency

namespace Sgr

variable {ι : Type*} [DecidableEq ι]

/-- The watchdog passes over a position from before the cutover. -/
def ActorConfig.beforeCutover (cfg : ActorConfig) (p : Position) : Bool :=
  cfg.cutover.any fun cutover => p.openedAt < cutover

/-- The target or the stop of a position is reached. -/
def priceExit (p : Position) : Option ExitReason := (checkTakeProfit p).or (checkStopLoss p)

/-- The closing order for a position that is to be closed. -/
def closeFor (p : Position) (reason : Option ExitReason) : List Submission :=
  (reason.map fun r => Submission.close p (some r)).toList

/-- The closing orders of a tick over these positions, on the answers that the feature store
gives one after the other. -/
def tickCloses (cfg : ActorConfig) (now : Timestamp) :
    List Position → List (Option MarketRegime) → List Submission
  | [], _ => []
  | p :: rest, answers =>
      if cfg.beforeCutover p then tickCloses cfg now rest answers
      else
        match priceExit p with
        | some reason => closeFor p (some reason) ++ tickCloses cfg now rest answers
        | none =>
            if asksRegime cfg.featureStore p then
              closeFor p ((checkRegimeExit answers.head?.join).or (checkMaxHoldingTime p now)) ++
                tickCloses cfg now rest answers.tail
            else closeFor p (checkMaxHoldingTime p now) ++ tickCloses cfg now rest answers

/-- What an actor has just handed to the engine. -/
def ActorPc.submission : ActorPc → List Submission
  | .executing sub _ _ => [sub]
  | _ => []

/-- What a tick has left to submit at its control point. -/
def ticksLeft (cfg : ActorConfig) : ActorPc → List (Option MarketRegime) → List Submission
  | .regime p rest now, answers =>
      closeFor p ((checkRegimeExit answers.head?.join).or (checkMaxHoldingTime p now)) ++
        tickCloses cfg now rest answers.tail
  | .executing _ rest now, answers => tickCloses cfg now rest answers
  | .booking _ _ rest now, answers => tickCloses cfg now rest answers
  | _, _ => []

/-- The answer of the feature store that an event carries. -/
def ActorEvent.answers : ActorEvent → List (Option MarketRegime)
  | .regimeAnswer answer => [answer]
  | _ => []

/-- A tick has come to a control point with these orders to submit, the one it has just handed
over among them. -/
structure Leaves (cfg : ActorConfig) (orders : List (Option MarketRegime) → List Submission)
    (pc : ActorPc) : Prop where
  notIdle : pc ≠ .idle
  notDeciding : pc ≠ .deciding
  submits : ∀ answers, pc.submission ++ ticksLeft cfg pc answers = orders answers

section Segments

variable {cfg : ActorConfig} {now : Timestamp}

theorem Leaves.congr {orders orders' : List (Option MarketRegime) → List Submission}
    {pc : ActorPc} (h : Leaves cfg orders pc) (heq : ∀ answers, orders' answers = orders answers) :
    Leaves cfg orders' pc :=
  ⟨h.notIdle, h.notDeciding, fun answers => (h.submits answers).trans (heq answers).symm⟩

theorem leaves_executing (sub : Submission) (rest : List Position) :
    Leaves cfg (fun answers => sub :: tickCloses cfg now rest answers)
      (.executing sub rest now) where
  notIdle := by rintro ⟨⟩
  notDeciding := by rintro ⟨⟩
  submits _ := rfl

theorem leaves_holdingExit (p : Position) {rest : List Position} {next : ActorPc}
    (hnext : Leaves cfg (tickCloses cfg now rest) next) :
    Leaves cfg (fun answers => closeFor p (checkMaxHoldingTime p now) ++
      tickCloses cfg now rest answers) (holdingExit p rest now next) := by
  unfold holdingExit
  cases checkMaxHoldingTime p now with
  | none => exact hnext
  | some reason => exact leaves_executing _ rest

/-- The loop hands over the next order of the tick and leaves the others. -/
theorem leaves_watchdogNext (rest : List Position) :
    Leaves cfg (tickCloses cfg now rest) (watchdogNext cfg now rest) := by
  induction rest with
  | nil => exact ⟨by rintro ⟨⟩, by rintro ⟨⟩, fun _ => rfl⟩
  | cons p rest ih =>
      unfold watchdogNext
      split
      next hcut =>
        refine ih.congr fun answers => ?_
        rw [tickCloses, ActorConfig.beforeCutover, if_pos hcut]
      next hcut =>
        split
        next reason hreason =>
          refine (leaves_executing _ rest).congr fun answers => ?_
          rw [tickCloses, ActorConfig.beforeCutover, if_neg hcut, priceExit, hreason]
          rfl
        next hnone =>
          split
          next hasks =>
            refine ⟨by rintro ⟨⟩, by rintro ⟨⟩, fun answers => ?_⟩
            rw [tickCloses, ActorConfig.beforeCutover, if_neg hcut, priceExit, hnone]
            dsimp only
            rw [if_pos hasks]
            rfl
          next hasks =>
            refine (leaves_holdingExit p ih).congr fun answers => ?_
            rw [tickCloses, ActorConfig.beforeCutover, if_neg hcut, priceExit, hnone]
            dsimp only
            rw [if_neg hasks]

theorem leaves_bookingNext (sub : Submission) (rest : List Position) (pc : FillPc) :
    Leaves cfg (tickCloses cfg now rest) (bookingNext cfg .watchdog sub rest now pc) := by
  cases pc with
  | returned => exact leaves_watchdogNext rest
  | raised => exact leaves_watchdogNext rest
  | _ => exact ⟨by rintro ⟨⟩, by rintro ⟨⟩, fun _ => rfl⟩

/-- A segment of a tick that has started hands over the next order on the answers left. -/
theorem leaves_actorSegment {s t : PortfolioState} {pc pc' : ActorPc} {e : ActorEvent}
    (h : actorSegment cfg .watchdog s pc e = some (t, pc')) (hidle : pc ≠ .idle)
    (hdeciding : pc ≠ .deciding) :
    Leaves cfg (fun answers => ticksLeft cfg pc (e.answers ++ answers)) pc' := by
  unfold actorSegment at h
  split at h
  · exact absurd rfl hidle
  next p rest now answer =>
    simp only [ticksLeft, ActorEvent.answers, List.singleton_append, List.head?_cons,
      Option.join_some, List.tail_cons]
    split at h
    next reason hreason =>
      cases h
      rw [hreason, Option.some_or]
      exact leaves_executing _ rest
    next hnone =>
      cases h
      rw [hnone, Option.none_or]
      exact leaves_holdingExit p (leaves_watchdogNext rest)
  · exact absurd rfl hdeciding
  · exact absurd rfl hdeciding
  next sub rest now ticker ids =>
    split at h
    · split at h
      · cases h
        exact leaves_watchdogNext rest
      · cases h
        exact leaves_bookingNext sub rest _
    · cases h
  next sub rest now =>
    cases h
    exact leaves_watchdogNext rest
  next sub pc rest now =>
    obtain ⟨⟨u, p⟩, -, heq⟩ := Option.map_eq_some_iff.1 h
    cases heq
    exact leaves_bookingNext sub rest p
  · cases h
    exact ⟨by rintro ⟨⟩, by rintro ⟨⟩, fun _ => rfl⟩
  · cases h

end Segments

/-! ### Ticks among the other actors -/

/-- What the actor `i` hands to the engine in a step. -/
def submitted (cfg : ActorConfig) (job : ι → ActorJob) (i : ι) (P : Pool ι PortfolioState ActorPc)
    (a : ι × ActorEvent) : List Submission :=
  if a.1 = i then
    ((actorMachine cfg job).next P a).elim [] fun Q => (Q.task i).submission
  else []

/-- What the feature store answers the actor `i` in a step. -/
def answered (i : ι) (_ : Pool ι PortfolioState ActorPc) (a : ι × ActorEvent) :
    List (Option MarketRegime) :=
  if a.1 = i then a.2.answers else []

section Runs

variable {cfg : ActorConfig} {job : ι → ActorJob} {i : ι}

/-- From any point of a tick, what it submits in a run and what it has left are the orders of
that point. -/
theorem submitted_run (hjob : job i = .watchdog) {P Q : Pool ι PortfolioState ActorPc}
    {as : List (ι × ActorEvent)} (hidle : P.task i ≠ .idle) (hdeciding : P.task i ≠ .deciding)
    (hrun : (actorMachine cfg job).run P as = some Q) (answers : List (Option MarketRegime)) :
    (actorMachine cfg job).outputs (submitted cfg job i) P as ++
        ticksLeft cfg (Q.task i) answers =
      ticksLeft cfg (P.task i)
        ((actorMachine cfg job).outputs (answered i) P as ++ answers) := by
  induction as generalizing P with
  | nil =>
      cases hrun
      rfl
  | cons a as ih =>
      obtain ⟨R, hR, hrun⟩ := (Machine.run_cons_eq_some_iff _).1 hrun
      rw [Machine.outputs_cons_of_eq_some _ _ hR, Machine.outputs_cons_of_eq_some _ _ hR,
        List.append_assoc]
      obtain ⟨j, e⟩ := a
      obtain ⟨t, pc, hsegment, rfl⟩ := Pool.machine_next_eq_some_iff.1 hR
      by_cases hj : j = i
      · subst hj
        rw [hjob] at hsegment
        have hleaves := leaves_actorSegment hsegment hidle hdeciding
        have hsubmits := ih (by rw [Pool.resume_task_self]; exact hleaves.notIdle)
          (by rw [Pool.resume_task_self]; exact hleaves.notDeciding) hrun
        rw [hsubmits, Pool.resume_task_self, submitted, if_pos rfl, hR, Option.elim_some,
          Pool.resume_task_self, hleaves.submits, answered, if_pos rfl, List.append_assoc]
      · -- another actor has moved
        have hother := Pool.resume_task_of_ne P (Ne.symm hj) t pc
        have hsubmits := ih (by rw [hother]; exact hidle) (by rw [hother]; exact hdeciding) hrun
        rw [submitted, if_neg hj, answered, if_neg hj, List.nil_append, List.nil_append,
          hsubmits, hother]

/-- The closing orders of a tick, one for each of some positions of the copy, in its order. -/
theorem exists_closes_tickCloses (cfg : ActorConfig) (now : Timestamp) (ps : List Position)
    (answers : List (Option MarketRegime)) :
    ∃ closes : List (Position × ExitReason),
      tickCloses cfg now ps answers = closes.map (fun c => .close c.1 (some c.2)) ∧
        (closes.map Prod.fst).Sublist ps := by
  induction ps generalizing answers with
  | nil => exact ⟨[], rfl, .slnil⟩
  | cons p ps ih =>
      have hclose : ∀ reason answers', ∃ closes : List (Position × ExitReason),
          closeFor p reason ++ tickCloses cfg now ps answers' =
              closes.map (fun c => .close c.1 (some c.2)) ∧
            (closes.map Prod.fst).Sublist (p :: ps) := by
        intro reason answers'
        obtain ⟨closes, heq, hsub⟩ := ih answers'
        cases reason with
        | none => exact ⟨closes, heq, hsub.cons p⟩
        | some reason =>
            refine ⟨(p, reason) :: closes, ?_, hsub.cons_cons p⟩
            rw [heq]
            rfl
      unfold tickCloses
      split
      · obtain ⟨closes, heq, hsub⟩ := ih answers
        exact ⟨closes, heq, hsub.cons p⟩
      · split
        · exact hclose _ _
        · split
          · exact hclose _ _
          · exact hclose _ _

theorem mem_closeFor {p : Position} {reason : Option ExitReason} (h : reason.isSome) :
    ∃ r, .close p (some r) ∈ closeFor p reason := by
  obtain ⟨r, rfl⟩ := Option.isSome_iff_exists.1 h
  exact ⟨r, List.mem_singleton_self _⟩

/-- A position whose target, stop or deadline is reached gets a closing order, whatever the
feature store answers. -/
theorem mem_tickCloses_of_due {cfg : ActorConfig} {now : Timestamp} {ps : List Position}
    (answers : List (Option MarketRegime)) {p : Position} (hp : p ∈ ps)
    (hcutover : cfg.beforeCutover p = false)
    (hdue : ((priceExit p).or (checkMaxHoldingTime p now)).isSome) :
    ∃ reason, .close p (some reason) ∈ tickCloses cfg now ps answers := by
  induction ps generalizing answers with
  | nil => cases hp
  | cons q ps ih =>
      rcases List.mem_cons.1 hp with rfl | hp
      · have hmem : ∀ {reason : Option ExitReason} (rest : List Submission), reason.isSome →
            ∃ r, .close p (some r) ∈ closeFor p reason ++ rest := by
          intro reason rest hreason
          obtain ⟨r, hr⟩ := mem_closeFor (p := p) hreason
          exact ⟨r, List.mem_append_left rest hr⟩
        rw [tickCloses, hcutover, if_neg Bool.false_ne_true]
        split
        · exact hmem _ rfl
        next hnone =>
          rw [hnone, Option.none_or] at hdue
          split
          · refine hmem _ ?_
            rw [Option.isSome_or, hdue, Bool.or_true]
          · exact hmem _ hdue
      · have hlater : ∀ reason answers', ∃ r,
            .close p (some r) ∈ closeFor q reason ++ tickCloses cfg now ps answers' := by
          intro reason answers'
          obtain ⟨r, hr⟩ := ih answers' hp
          exact ⟨r, List.mem_append_right _ hr⟩
        unfold tickCloses
        split
        · exact ih answers hp
        · split
          · exact hlater _ _
          · split
            · exact hlater _ _
            · exact hlater _ _

/-- A tick that has run to its end, whatever the other actors did meanwhile, has submitted what
a plain pass over the copy that it made at its start submits on the same answers: at most one
closing order for each position of the copy, in its order, and one for each whose target, stop
or deadline was reached. -/
theorem submitted_tick (hjob : job i = .watchdog) (hcutover : cfg.cutover.isSome)
    {P Q : Pool ι PortfolioState ActorPc} {now : Timestamp} {as : List (ι × ActorEvent)}
    (hidle : P.task i = .idle)
    (hrun : (actorMachine cfg job).run P ((i, .start now) :: as) = some Q)
    (hdone : Q.task i = .done) :
    ∃ closes : List (Position × ExitReason),
      (actorMachine cfg job).outputs (submitted cfg job i) P ((i, .start now) :: as) =
          closes.map (fun c => .close c.1 (some c.2)) ∧
        closes.map (fun c => .close c.1 (some c.2)) =
          tickCloses cfg now P.shared.positions.values
            ((actorMachine cfg job).outputs (answered i) P ((i, .start now) :: as)) ∧
        (closes.map Prod.fst).Sublist P.shared.positions.values ∧
        ∀ p ∈ P.shared.positions.values, cfg.beforeCutover p = false →
          ((priceExit p).or (checkMaxHoldingTime p now)).isSome →
            p ∈ closes.map Prod.fst := by
  obtain ⟨R, hR, hrest⟩ := (Machine.run_cons_eq_some_iff _).1 hrun
  have hstart : R = P.resume i P.shared (watchdogNext cfg now P.shared.positions.values) := by
    obtain ⟨t, pc, hsegment, rfl⟩ := Pool.machine_next_eq_some_iff.1 hR
    rw [hjob, hidle] at hsegment
    dsimp only [actorSegment] at hsegment
    rw [if_neg (by simpa [Option.isSome_iff_ne_none] using hcutover)] at hsegment
    cases hsegment
    rfl
  have hleaves : Leaves cfg (tickCloses cfg now P.shared.positions.values) (R.task i) := by
    rw [hstart, Pool.resume_task_self]
    exact leaves_watchdogNext _
  have hsubmits := submitted_run hjob hleaves.notIdle hleaves.notDeciding hrest []
  have hend : ticksLeft cfg .done [] = [] := rfl
  rw [hdone, hend, List.append_nil, List.append_nil] at hsubmits
  have horders : (actorMachine cfg job).outputs (submitted cfg job i) P ((i, .start now) :: as) =
      tickCloses cfg now P.shared.positions.values
        ((actorMachine cfg job).outputs (answered i) P ((i, .start now) :: as)) := by
    rw [Machine.outputs_cons_of_eq_some _ _ hR, Machine.outputs_cons_of_eq_some _ _ hR, hsubmits,
      submitted, if_pos rfl, hR, Option.elim_some, hleaves.submits, answered, if_pos rfl]
    rfl
  obtain ⟨closes, hcloses, hsub⟩ := exists_closes_tickCloses cfg now P.shared.positions.values
    ((actorMachine cfg job).outputs (answered i) P ((i, .start now) :: as))
  refine ⟨closes, horders.trans hcloses, hcloses.symm, hsub, fun p hp hcut hdue => ?_⟩
  obtain ⟨reason, hmem⟩ := mem_tickCloses_of_due
    ((actorMachine cfg job).outputs (answered i) P ((i, .start now) :: as)) hp hcut hdue
  rw [hcloses, List.mem_map] at hmem
  obtain ⟨c, hc, heq⟩ := hmem
  cases heq
  exact List.mem_map_of_mem hc

end Runs

/-- A tick closes the position whose target is reached, while the liquidator closes it too. -/
theorem submitted_tick_watchdogCloses :
    ∃ Q, (actorMachine paperActors watchdogAndLiquidator).run (actorStart targetReached)
        [(false, .start 0), (true, .start 0), (false, filledAt100 7), (false, .resume),
          (true, .notFilled), (false, .resume)] = some Q ∧
      ∃ closes : List (Position × ExitReason),
        (actorMachine paperActors watchdogAndLiquidator).outputs
            (submitted paperActors watchdogAndLiquidator false) (actorStart targetReached)
            [(false, .start 0), (true, .start 0), (false, filledAt100 7), (false, .resume),
              (true, .notFilled), (false, .resume)] =
          closes.map (fun c => .close c.1 (some c.2)) := by
  obtain ⟨Q, hrun, hdone⟩ := (Option.any_eq_true _ _).1 (show ((actorMachine paperActors
      watchdogAndLiquidator).run (actorStart targetReached) [(false, .start 0), (true, .start 0),
        (false, filledAt100 7), (false, .resume), (true, .notFilled), (false, .resume)]).any
    (fun Q => match Q.task false with
      | .done => true
      | _ => false) = true by decide +kernel)
  have htask : Q.task false = .done := by
    split at hdone
    next h => exact h
    next => cases hdone
  have hjob : watchdogAndLiquidator false = .watchdog := rfl
  obtain ⟨closes, hcloses, -⟩ := submitted_tick hjob rfl rfl hrun htask
  exact ⟨Q, hrun, closes, hcloses⟩

end Sgr
