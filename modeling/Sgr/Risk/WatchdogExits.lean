import Sgr.Portfolio.HeldPositions
import Sgr.Risk.CostGuard
import Sgr.Risk.ReduceOnly

/-!
# The exits of the watchdog

The hook puts the stop and the target of a position on the two sides of its entry, and no
fill, close or price update takes them away from there. So a target that the watchdog meets
is a price beyond the entry by the costs of a round trip, and a stop is one on the losing
side, whatever the other actors do to the portfolio.
-/

open Collection Concurrency

namespace Sgr

variable {ι : Type*} [DecidableEq ι]

/-! ### Stops and targets around the entry -/

/-- The second price is beyond the first, in the direction in which a position gains. -/
def PositionSide.Beyond (side : PositionSide) (price other : ℚ) : Prop :=
  if side = .long then price < other else other < price

instance (side : PositionSide) (price other : ℚ) : Decidable (side.Beyond price other) := by
  unfold PositionSide.Beyond
  infer_instance

/-- The second price has gained the costs of a round trip on the first, which is the entry. -/
def ProtectionLimits.Covered (limits : ProtectionLimits) (side : PositionSide)
    (entry price : ℚ) : Prop :=
  let costs := entry * (2 * (limits.paperTakerFeePct + limits.paperSlippagePct))
  if side = .long then entry + costs ≤ price else price ≤ entry - costs

instance (limits : ProtectionLimits) (side : PositionSide) (entry price : ℚ) :
    Decidable (limits.Covered side entry price) := by
  unfold ProtectionLimits.Covered
  infer_instance

/-- The protection of a position stands around its entry. -/
structure Position.Bracketed (limits : ProtectionLimits) (p : Position) : Prop where
  entry : 0 < p.entryPrice
  target : ∀ target ∈ p.takeProfitPrice,
    p.side.Beyond p.entryPrice target ∧ limits.Covered p.side p.entryPrice target
  stop : ∀ stop ∈ p.stopLossPrice, p.side.Beyond stop p.entryPrice
  deadline : ∀ deadline ∈ p.maxHoldingUntil,
    deadline = p.openedAt + 60 * limits.maxHoldingMinutes

/-- Prices of the strategy that are accepted stand around the entry. -/
theorem beyond_of_extractStrategyPrices {raw : RawResponse} {side : PositionSide} {entry : ℚ}
    {prices : ℚ × ℚ} (h : extractStrategyPrices raw side entry = some prices) :
    side.Beyond entry prices.1 ∧ side.Beyond prices.2 entry := by
  unfold extractStrategyPrices at h
  split at h
  · split at h
    · cases h
    · split at h
      next hlong =>
        split at h
        next hsides =>
          cases h
          simpa [PositionSide.Beyond, hlong] using hsides.symm
        next => cases h
      next hshort =>
        split at h
        next hsides =>
          cases h
          simpa [PositionSide.Beyond, hshort] using hsides
        next => cases h
  · cases h

/-- The prices of a validated configuration stand around the entry. -/
theorem beyond_configPrices {limits : ProtectionLimits} (hvalid : limits.Validated)
    (side : PositionSide) {entry : ℚ} (hentry : 0 < entry) :
    side.Beyond entry (configPrices limits side entry).1 ∧
      side.Beyond (configPrices limits side entry).2 entry := by
  have hstop := mul_pos hentry hvalid.stopLossPct.1
  have htarget := mul_pos hentry hvalid.takeProfitPct.1
  unfold configPrices PositionSide.Beyond
  split
  · constructor
    · linarith
    · linarith
  · constructor
    · linarith
    · linarith

/-- The cost guard moves a target outwards only. -/
theorem beyond_applyCostGuard {limits : ProtectionLimits} {side : PositionSide}
    {entry target : ℚ} (h : side.Beyond entry target) :
    side.Beyond entry (applyCostGuard limits entry target side) ∧
      limits.Covered side entry (applyCostGuard limits entry target side) := by
  by_cases hlong : side = .long
  · subst hlong
    rw [PositionSide.Beyond, if_pos rfl] at h
    rw [applyCostGuard_long, PositionSide.Beyond, if_pos rfl]
    refine ⟨lt_max_of_lt_left h, ?_⟩
    simp [ProtectionLimits.Covered]
  · rw [PositionSide.Beyond, if_neg hlong] at h ⊢
    have hguard : applyCostGuard limits entry target side ≤
        entry - entry * (2 * (limits.paperTakerFeePct + limits.paperSlippagePct)) :=
      applyCostGuard_le hlong
    refine ⟨?_, by simpa [ProtectionLimits.Covered, hlong] using hguard⟩
    unfold applyCostGuard
    rw [if_neg hlong]
    split
    next hnear => linarith
    next => exact h

theorem bracketed_of_onPositionOpened {limits : ProtectionLimits} (hvalid : limits.Validated)
    {p q : Position} {raw : RawResponse} (hentry : 0 < p.entryPrice)
    (h : onPositionOpened limits p raw = some q) : q.Bracketed limits := by
  unfold onPositionOpened at h
  split at h
  · cases h
  · split at h
    · cases h
    · cases h
      -- the prices before the cost guard
      have hprices : p.side.Beyond p.entryPrice
            ((extractStrategyPrices raw p.side p.entryPrice).getD
              (configPrices limits p.side p.entryPrice)).1 ∧
          p.side.Beyond ((extractStrategyPrices raw p.side p.entryPrice).getD
              (configPrices limits p.side p.entryPrice)).2 p.entryPrice := by
        cases hraw : extractStrategyPrices raw p.side p.entryPrice with
        | none => exact beyond_configPrices hvalid p.side hentry
        | some prices => exact beyond_of_extractStrategyPrices hraw
      refine ⟨hentry, ?_, ?_, ?_⟩
      · rintro target ⟨⟩
        exact beyond_applyCostGuard hprices.1
      · rintro stop ⟨⟩
        exact hprices.2
      · rintro deadline ⟨⟩
        rfl

/-- A fill at a positive price. -/
def FillCall.Priced (f : FillCall) : Prop := ∀ price ∈ acceptedPrice f.result, 0 < price

/-- The handlers keep the protection of every position around its entry. -/
theorem keptByBooking_bracketed {cfg : PortfolioConfig} {limits : ProtectionLimits}
    (hcfg : cfg.protection = some limits) (hvalid : limits.Validated) :
    KeptByBooking cfg FillCall.Priced (Position.Bracketed limits) where
  opened f price hpriced hprice :=
    { entry := hpriced price hprice
      target := by rintro _ ⟨⟩
      stop := by rintro _ ⟨⟩
      deadline := by rintro _ ⟨⟩ }
  attached f p q hp hq := by
    rw [protectedPosition, hcfg, Option.bind_some] at hq
    exact bracketed_of_onPositionOpened hvalid hp.entry hq
  repriced p price hp := ⟨hp.entry, hp.target, hp.stop, hp.deadline⟩
  reduced p q hp := ⟨hp.entry, hp.target, hp.stop, hp.deadline⟩

/-! ### What the watchdog has seen -/

/-- The watchdog has a reason to close a position. -/
def ExitDue (cfg : ActorConfig) (p : Position) (now : Timestamp) : ExitReason → Prop
  | .takeProfit => checkTakeProfit p = some .takeProfit
  | .stopLoss => checkTakeProfit p = none ∧ checkStopLoss p = some .stopLoss
  | .regimeChange => (checkTakeProfit p).or (checkStopLoss p) = none ∧
      asksRegime cfg.featureStore p = true
  | .maxHoldingTime => (checkTakeProfit p).or (checkStopLoss p) = none ∧
      checkMaxHoldingTime p now = some .maxHoldingTime
  | _ => False

/-- What a watchdog knows of the position at its control point. -/
def DueAt (cfg : ActorConfig) : ActorPc → Prop
  | .regime p _ _ => (checkTakeProfit p).or (checkStopLoss p) = none ∧
      asksRegime cfg.featureStore p = true
  | .executing (.close p (some reason)) _ now => ExitDue cfg p now reason
  | _ => True

section Due

variable {cfg : ActorConfig}

theorem dueAt_holdingExit {p : Position} (hprices : (checkTakeProfit p).or (checkStopLoss p) = none)
    (rest : List Position) (now : Timestamp) {next : ActorPc} (hnext : DueAt cfg next) :
    DueAt cfg (holdingExit p rest now next) := by
  unfold holdingExit
  split
  next reason hreason =>
    have hholding : reason = .maxHoldingTime := by
      unfold checkMaxHoldingTime at hreason
      split at hreason
      · cases hreason
      · split at hreason
        · cases hreason
          rfl
        · cases hreason
    subst hholding
    exact ⟨hprices, hreason⟩
  next => exact hnext

theorem checkTakeProfit_eq_none_or (p : Position) :
    checkTakeProfit p = none ∨ checkTakeProfit p = some .takeProfit := by
  unfold checkTakeProfit
  split
  · exact .inl rfl
  · split
    · split <;> simp
    · split <;> simp

theorem checkStopLoss_eq_none_or (p : Position) :
    checkStopLoss p = none ∨ checkStopLoss p = some .stopLoss := by
  unfold checkStopLoss
  split
  · exact .inl rfl
  · split
    · split <;> simp
    · split <;> simp

theorem exitDue_of_prices {p : Position} {reason : ExitReason} (now : Timestamp)
    (h : (checkTakeProfit p).or (checkStopLoss p) = some reason) : ExitDue cfg p now reason := by
  rcases checkTakeProfit_eq_none_or p with htarget | htarget
  · rw [htarget, Option.none_or] at h
    rcases checkStopLoss_eq_none_or p with hstop | hstop
    · rw [hstop] at h
      cases h
    · rw [hstop] at h
      cases h
      exact ⟨htarget, hstop⟩
  · rw [htarget, Option.some_or] at h
    cases h
    exact htarget

theorem dueAt_watchdogNext (now : Timestamp) (rest : List Position) :
    DueAt cfg (watchdogNext cfg now rest) := by
  induction rest with
  | nil => trivial
  | cons p rest ih =>
      unfold watchdogNext
      split
      · exact ih
      · split
        next reason hreason => exact exitDue_of_prices now hreason
        next hnone =>
          split
          next hasks => exact ⟨hnone, hasks⟩
          next => exact dueAt_holdingExit hnone rest now ih

theorem dueAt_nextOrder (now : Timestamp) (rest : List Position) (job : ActorJob) :
    DueAt cfg (nextOrder cfg now rest job) := by
  cases job with
  | watchdog => exact dueAt_watchdogNext now rest
  | liquidator =>
      cases rest
      · trivial
      · trivial
  | cycle => trivial
  | prices => trivial

theorem dueAt_bookingNext (job : ActorJob) (sub : Submission) (rest : List Position)
    (now : Timestamp) (pc : FillPc) : DueAt cfg (bookingNext cfg job sub rest now pc) := by
  cases pc with
  | returned => exact dueAt_nextOrder now rest job
  | raised =>
      cases job with
      | watchdog => exact dueAt_watchdogNext now rest
      | _ => trivial
  | _ => trivial

theorem dueAt_actorSegment {job : ActorJob} {s t : PortfolioState} {pc pc' : ActorPc}
    {e : ActorEvent} (h : actorSegment cfg job s pc e = some (t, pc')) (hpc : DueAt cfg pc) :
    DueAt cfg pc' := by
  unfold actorSegment at h
  split at h
  · cases job with
    | watchdog =>
        dsimp only at h
        split at h
        · cases h
          trivial
        · cases h
          exact dueAt_watchdogNext _ _
    | liquidator =>
        cases h
        exact dueAt_nextOrder _ _ .liquidator
    | cycle =>
        cases h
        trivial
    | prices prices =>
        cases h
        trivial
  · split at h
    next reason hreason =>
      cases h
      have hregime : reason = .regimeChange := by
        unfold checkRegimeExit at hreason
        split at hreason <;> cases hreason
        rfl
      subst hregime
      exact hpc
    next =>
      cases h
      exact dueAt_holdingExit hpc.1 _ _ (dueAt_watchdogNext _ _)
  · cases h
    trivial
  · cases h
    trivial
  · split at h
    · split at h
      · cases h
        exact dueAt_nextOrder _ _ _
      · cases h
        exact dueAt_bookingNext _ _ _ _ _
    · cases h
  · cases h
    exact dueAt_nextOrder _ _ _
  · obtain ⟨⟨u, p⟩, -, heq⟩ := Option.map_eq_some_iff.1 h
    cases heq
    exact dueAt_bookingNext _ _ _ _ _
  · cases h
    trivial
  · cases h

end Due

/-! ### Runs of the actors -/

/-- The positions that an actor has in hand. -/
def ActorPc.carried : ActorPc → List Position
  | .regime p rest _ => p :: rest
  | .executing (.close p _) rest _ => p :: rest
  | .executing (.trade _) rest _ => rest
  | .booking _ _ rest _ => rest
  | _ => []

/-- A control point that a loop comes to from the rest of its positions. -/
structure LoopPc (rest : List Position) (pc : ActorPc) : Prop where
  carried : ∀ p ∈ pc.carried, p ∈ rest
  notTrade : ∀ o rest now, pc ≠ .executing (.trade o) rest now
  notBooking : ∀ sub handler rest now, pc ≠ .booking sub handler rest now

/-- The tickers and limit prices of an event are positive. -/
def ActorEvent.Positive : ActorEvent → Prop
  | .simulated (some ticker) _ => 0 < ticker.bid ∧ 0 < ticker.ask
  | .approved o => ∀ price ∈ o.limitPrice, 0 < price
  | _ => True

instance (e : ActorEvent) : Decidable e.Positive := by
  unfold ActorEvent.Positive
  split <;> infer_instance

/-- What holds at the control point of an actor. -/
structure WatchedPc (cfg : ActorConfig) (limits : ProtectionLimits) (pc : ActorPc) : Prop where
  carried : ∀ p ∈ pc.carried, p.Bracketed limits
  pending : ∀ sub handler rest now, pc = .booking sub handler rest now →
    HoldsOfPending cfg.portfolio (Position.Bracketed limits) (.filling handler)
  priced : ∀ o rest now, pc = .executing (.trade o) rest now → ∀ price ∈ o.limitPrice, 0 < price

/-- What holds of the actors all along a run. -/
structure Watched (cfg : ActorConfig) (limits : ProtectionLimits) (P : ActorPool ι) : Prop where
  held : HoldsOfAll (Position.Bracketed limits) P.shared
  actor : ∀ i, WatchedPc cfg limits (P.task i)
  due : ∀ i, DueAt cfg (P.task i)

section Loops

variable {cfg : ActorConfig} {rest : List Position} {now : Timestamp}

theorem LoopPc.mono {rest' : List Position} {pc : ActorPc} (h : LoopPc rest pc)
    (hsub : ∀ p ∈ rest, p ∈ rest') : LoopPc rest' pc :=
  ⟨fun p hp => hsub p (h.carried p hp), h.notTrade, h.notBooking⟩

theorem loopPc_done : LoopPc rest .done where
  carried _ hp := by cases hp
  notTrade _ _ _ := by rintro ⟨⟩
  notBooking _ _ _ _ := by rintro ⟨⟩

theorem loopPc_close (p : Position) (reason : Option ExitReason) :
    LoopPc (p :: rest) (.executing (.close p reason) rest now) where
  carried _ hq := hq
  notTrade _ _ _ := by rintro ⟨⟩
  notBooking _ _ _ _ := by rintro ⟨⟩

theorem loopPc_regime (p : Position) : LoopPc (p :: rest) (.regime p rest now) where
  carried _ hq := hq
  notTrade _ _ _ := by rintro ⟨⟩
  notBooking _ _ _ _ := by rintro ⟨⟩

theorem loopPc_holdingExit (p : Position) {next : ActorPc} (hnext : LoopPc rest next) :
    LoopPc (p :: rest) (holdingExit p rest now next) := by
  unfold holdingExit
  split
  · exact loopPc_close p _
  · exact hnext.mono fun q hq => List.mem_cons_of_mem p hq

theorem loopPc_watchdogNext (cfg : ActorConfig) (now : Timestamp) (rest : List Position) :
    LoopPc rest (watchdogNext cfg now rest) := by
  induction rest with
  | nil => exact loopPc_done
  | cons p rest ih =>
      unfold watchdogNext
      split
      · exact ih.mono fun q hq => List.mem_cons_of_mem p hq
      · split
        · exact loopPc_close p _
        · split
          · exact loopPc_regime p
          · exact loopPc_holdingExit p ih

theorem loopPc_nextOrder (cfg : ActorConfig) (now : Timestamp) (rest : List Position)
    (job : ActorJob) : LoopPc rest (nextOrder cfg now rest job) := by
  cases job with
  | watchdog => exact loopPc_watchdogNext cfg now rest
  | liquidator =>
      cases rest with
      | nil => exact loopPc_done
      | cons p rest => exact loopPc_close p none
  | cycle => exact loopPc_done
  | prices => exact loopPc_done

theorem LoopPc.watchedPc {limits : ProtectionLimits} {pc : ActorPc} (h : LoopPc rest pc)
    (hrest : ∀ p ∈ rest, p.Bracketed limits) : WatchedPc cfg limits pc where
  carried p hp := hrest p (h.carried p hp)
  pending _ _ _ _ hpc := absurd hpc (h.notBooking _ _ _ _)
  priced _ _ _ hpc := absurd hpc (h.notTrade _ _ _)

/-- A handler that has ended leaves the loop at the rest of its positions. -/
theorem watchedPc_bookingNext {limits : ProtectionLimits} (job : ActorJob) (sub : Submission)
    (hrest : ∀ p ∈ rest, p.Bracketed limits) (pc : FillPc)
    (hpc : HoldsOfPending cfg.portfolio (Position.Bracketed limits) (.filling pc)) :
    WatchedPc cfg limits (bookingNext cfg job sub rest now pc) := by
  have hbooking : WatchedPc cfg limits (.booking sub pc rest now) :=
    { carried := hrest
      pending := by
        rintro _ _ _ _ ⟨⟩
        exact hpc
      priced := by rintro _ _ _ ⟨⟩ }
  cases pc with
  | returned => exact (loopPc_nextOrder cfg now rest job).watchedPc hrest
  | raised =>
      cases job with
      | watchdog => exact (loopPc_watchdogNext cfg now rest).watchedPc hrest
      | _ => exact loopPc_done.watchedPc hrest
  | _ => exact hbooking

end Loops

/-- The paper simulation fills at positive prices. -/
theorem priced_of_submittedFill {cfg : ActorConfig} {limits : ProtectionLimits} {maker : ℚ}
    (hpaper : cfg.paper = limits.paper maker) (hvalid : limits.Validated) {sub : Submission}
    {ticker : Option Ticker} {ids : FillIds} {f : FillCall}
    (hfill : submittedFill cfg sub ticker ids = some f)
    (hticker : ∀ t ∈ ticker, 0 < t.bid ∧ 0 < t.ask)
    (hsub : ∀ o, sub = .trade o → ∀ price ∈ o.limitPrice, 0 < price) : f.Priced := by
  obtain ⟨r, hr, rfl⟩ := Option.map_eq_some_iff.1 hfill
  obtain ⟨price, hprice, rfl⟩ := Option.map_eq_some_iff.1 hr
  have hslip : 0 ≤ cfg.paper.paperSlippagePct ∧ cfg.paper.paperSlippagePct ≤ 1 / 100 := by
    rw [hpaper]
    exact hvalid.paperSlippagePct
  have hpos : 0 < price := by
    cases ticker with
    | some t =>
        obtain ⟨hbid, hask⟩ := hticker t rfl
        cases hprice
        split
        · exact mul_pos hask (by linarith)
        · exact mul_pos hbid (by linarith)
    | none =>
        obtain ⟨hlimit, -⟩ := Option.filter_eq_some_iff.1 hprice
        cases sub with
        | close p reason => cases hlimit
        | trade o => exact hsub o rfl price hlimit
  intro price' hprice'
  unfold acceptedPrice at hprice'
  split at hprice'
  · cases hprice'
  · split at hprice'
    · cases hprice'
    · cases hprice'
      exact hpos

section Runs

variable {cfg : ActorConfig} {limits : ProtectionLimits} {maker : ℚ}

theorem watchedPc_actorSegment (hhook : cfg.portfolio.protection = some limits)
    (hpaper : cfg.paper = limits.paper maker) (hvalid : limits.Validated) {job : ActorJob}
    {s t : PortfolioState} {pc pc' : ActorPc} {e : ActorEvent} (he : e.Positive)
    (hs : HoldsOfAll (Position.Bracketed limits) s) (hpc : WatchedPc cfg limits pc)
    (h : actorSegment cfg job s pc e = some (t, pc')) :
    HoldsOfAll (Position.Bracketed limits) t ∧ WatchedPc cfg limits pc' := by
  have hkept := keptByBooking_bracketed hhook hvalid
  have hvalues : ∀ p ∈ s.positions.values, p.Bracketed limits := fun p hp => hs.of_mem_values hp
  have hrest : ∀ {p : Position} {rest : List Position},
      (∀ q ∈ p :: rest, q.Bracketed limits) → ∀ q ∈ rest, q.Bracketed limits :=
    fun hall q hq => hall q (List.mem_cons_of_mem _ hq)
  unfold actorSegment at h
  split at h
  · cases job with
    | watchdog =>
        dsimp only at h
        split at h
        · cases h
          exact ⟨hs, loopPc_done.watchedPc hvalues⟩
        · cases h
          exact ⟨hs, (loopPc_watchdogNext _ _ _).watchedPc hvalues⟩
    | liquidator =>
        cases h
        exact ⟨hs, (loopPc_nextOrder cfg _ _ .liquidator).watchedPc hvalues⟩
    | cycle =>
        cases h
        exact ⟨hs, by rintro _ ⟨⟩, by rintro _ _ _ _ ⟨⟩, by rintro _ _ _ ⟨⟩⟩
    | prices prices =>
        cases h
        exact ⟨hs.atPrices hkept.repriced _, by rintro _ ⟨⟩, by rintro _ _ _ _ ⟨⟩,
          by rintro _ _ _ ⟨⟩⟩
  · split at h
    · cases h
      exact ⟨hs, (loopPc_close _ _).watchedPc hpc.carried⟩
    · cases h
      exact ⟨hs, (loopPc_holdingExit _ (loopPc_watchdogNext _ _ _)).watchedPc hpc.carried⟩
  · cases h
    exact ⟨hs, loopPc_done.watchedPc hpc.carried⟩
  · cases h
    refine ⟨hs, by rintro _ ⟨⟩, by rintro _ _ _ _ ⟨⟩, ?_⟩
    rintro _ _ _ ⟨⟩
    exact he
  next sub rest now ticker ids =>
    split at h
    · have htail : ∀ q ∈ rest, q.Bracketed limits := by
        cases sub with
        | close p reason => exact hrest hpc.carried
        | trade o => exact hpc.carried
      split at h
      · cases h
        exact ⟨hs, (loopPc_nextOrder _ _ _ _).watchedPc htail⟩
      next f hfill =>
        cases h
        have hpriced : f.Priced := priced_of_submittedFill hpaper hvalid hfill
          (by rintro _ rfl; exact he) (by rintro o rfl; exact hpc.priced o _ _ rfl)
        obtain ⟨ht, hpending⟩ := hkept.step (by rintro _ ⟨⟩; exact hpriced) hs
          (.of_none rfl rfl) (portfolioStep_of_fillStart cfg.portfolio f s)
        exact ⟨ht, watchedPc_bookingNext job sub htail _ hpending⟩
    · cases h
  next sub rest now =>
    cases h
    refine ⟨hs, (loopPc_nextOrder _ _ _ _).watchedPc ?_⟩
    cases sub with
    | close p reason => exact hrest hpc.carried
    | trade o => exact hpc.carried
  next sub handler rest now =>
    obtain ⟨⟨u, handler'⟩, hresume, heq⟩ := Option.map_eq_some_iff.1 h
    cases heq
    have hstep : PortfolioStep cfg.portfolio (.prices fun _ => none) s (.filling handler) u
        (.filling handler') :=
      portfolioStep_of_fillResume hresume
    obtain ⟨ht, hpending⟩ := hkept.step (by rintro _ ⟨⟩) hs (hpc.pending _ _ _ _ rfl) hstep
    exact ⟨ht, watchedPc_bookingNext job sub hpc.carried _ hpending⟩
  · cases h
    exact ⟨hs, by rintro _ ⟨⟩, by rintro _ _ _ _ ⟨⟩, by rintro _ _ _ ⟨⟩⟩
  · cases h

omit [DecidableEq ι] in
theorem watched_actorStart {s : PortfolioState}
    (hs : HoldsOfAll (Position.Bracketed limits) s) :
    Watched (ι := ι) cfg limits (actorStart s) where
  held := hs
  actor _ := ⟨by rintro _ ⟨⟩, by rintro _ _ _ _ ⟨⟩, by rintro _ _ _ ⟨⟩⟩
  due _ := trivial

theorem Watched.step (hhook : cfg.portfolio.protection = some limits)
    (hpaper : cfg.paper = limits.paper maker) (hvalid : limits.Validated)
    {job : ι → ActorJob} {P Q : ActorPool ι} {a : ι × ActorEvent}
    (h : Watched cfg limits P) (he : a.2.Positive)
    (hnext : (actorMachine cfg job).next P a = some Q) : Watched cfg limits Q := by
  obtain ⟨i, e⟩ := a
  obtain ⟨t, pc, hsegment, rfl⟩ := Pool.machine_next_eq_some_iff.1 hnext
  obtain ⟨ht, hpc⟩ := watchedPc_actorSegment hhook hpaper hvalid he h.held (h.actor i) hsegment
  exact
    { held := ht
      actor := Pool.forall_task_resume (φ := fun _ pc => WatchedPc cfg limits pc)
        (fun j _ => h.actor j) hpc
      due := Pool.forall_task_resume (φ := fun _ pc => DueAt cfg pc)
        (fun j _ => h.due j) (dueAt_actorSegment hsegment (h.due i)) }

end Runs

/-- The price of a position lies between its stop and its target. -/
def Position.BetweenStops (p : Position) : Prop :=
  (∀ target ∈ p.takeProfitPrice, p.side.Beyond p.currentPrice target) ∧
    ∀ stop ∈ p.stopLossPrice, p.side.Beyond stop p.currentPrice

/-- What a closing order of the watchdog says about the position that it has read. -/
def JustifiedExit (cfg : ActorConfig) (limits : ProtectionLimits) (p : Position)
    (now : Timestamp) : ExitReason → Prop
  | .takeProfit => p.side.Beyond p.entryPrice p.currentPrice ∧
      limits.Covered p.side p.entryPrice p.currentPrice
  | .stopLoss => p.side.Beyond p.currentPrice p.entryPrice
  | .regimeChange => p.BetweenStops ∧ cfg.featureStore = true ∧ p.entryRegime = some .ranging
  | .maxHoldingTime => p.BetweenStops ∧ p.openedAt + 60 * limits.maxHoldingMinutes ≤ now
  | _ => False

section Justified

variable {cfg : ActorConfig} {limits : ProtectionLimits} {p : Position}

theorem justified_takeProfit (h : p.Bracketed limits)
    (hdue : checkTakeProfit p = some .takeProfit) :
    p.side.Beyond p.entryPrice p.currentPrice ∧
      limits.Covered p.side p.entryPrice p.currentPrice := by
  unfold checkTakeProfit at hdue
  split at hdue
  · cases hdue
  next target htarget =>
    have hbracket := h.target target htarget
    unfold PositionSide.Beyond ProtectionLimits.Covered at hbracket ⊢
    dsimp only at hbracket ⊢
    split at hdue
    next hlong =>
      rw [if_pos hlong, if_pos hlong] at hbracket ⊢
      split at hdue
      next hreached => exact ⟨hbracket.1.trans_le hreached, hbracket.2.trans hreached⟩
      next => cases hdue
    next hshort =>
      rw [if_neg hshort, if_neg hshort] at hbracket ⊢
      split at hdue
      next hreached => exact ⟨hreached.trans_lt hbracket.1, hreached.trans hbracket.2⟩
      next => cases hdue

theorem justified_stopLoss (h : p.Bracketed limits) (hdue : checkStopLoss p = some .stopLoss) :
    p.side.Beyond p.currentPrice p.entryPrice := by
  unfold checkStopLoss at hdue
  split at hdue
  · cases hdue
  next stop hstop =>
    have hbracket := h.stop stop hstop
    unfold PositionSide.Beyond at hbracket ⊢
    split at hdue
    next hlong =>
      rw [if_pos hlong] at hbracket ⊢
      split at hdue
      next hreached => exact hreached.trans_lt hbracket
      next => cases hdue
    next hshort =>
      rw [if_neg hshort] at hbracket ⊢
      split at hdue
      next hreached => exact hbracket.trans_le hreached
      next => cases hdue

theorem betweenStops_of_eq_none (h : (checkTakeProfit p).or (checkStopLoss p) = none) :
    p.BetweenStops := by
  obtain ⟨htarget, hstop⟩ := Option.or_eq_none_iff.1 h
  constructor
  · intro target htp
    rw [Option.mem_def] at htp
    rw [checkTakeProfit, htp] at htarget
    unfold PositionSide.Beyond
    by_cases hlong : p.side = .long
    · simpa [hlong] using htarget
    · simpa [hlong] using htarget
  · intro stop hsl
    rw [Option.mem_def] at hsl
    rw [checkStopLoss, hsl] at hstop
    unfold PositionSide.Beyond
    by_cases hlong : p.side = .long
    · simpa [hlong] using hstop
    · simpa [hlong] using hstop

theorem ExitDue.justified {now : Timestamp} {reason : ExitReason} (h : p.Bracketed limits)
    (hdue : ExitDue cfg p now reason) : JustifiedExit cfg limits p now reason := by
  cases reason with
  | takeProfit => exact justified_takeProfit h hdue
  | stopLoss => exact justified_stopLoss h hdue.2
  | regimeChange =>
      have hasks := hdue.2
      simp only [asksRegime, Bool.and_eq_true, beq_iff_eq] at hasks
      exact ⟨betweenStops_of_eq_none hdue.1, hasks⟩
  | maxHoldingTime =>
      refine ⟨betweenStops_of_eq_none hdue.1, ?_⟩
      have hholding := hdue.2
      unfold checkMaxHoldingTime at hholding
      split at hholding
      · cases hholding
      next deadline hdeadline =>
        rw [← h.deadline deadline hdeadline]
        by_contra hlate
        rw [if_neg hlate] at hholding
        cases hholding
  | strategySignal => exact hdue.elim
  | killSwitch => exact hdue.elim
  | manual => exact hdue.elim

end Justified

/-- The actors of the example: new positions are protected. -/
def protectedActors : ActorConfig where
  portfolio := ⟨.paper, some .withoutSlippage⟩
  paper := ProtectionLimits.withoutSlippage.paper 0

/-- Whoever takes part in the example. -/
inductive BuyRepriceWatch
  | buyer
  | prices
  | watchdog
  deriving DecidableEq

/-- A cycle that buys, a price update and a tick of the watchdog. -/
def buyRepriceWatch : BuyRepriceWatch → ActorJob
  | .buyer => .cycle
  | .prices => .prices fun _ => some 101
  | .watchdog => .watchdog

/-- The position is bought at 100 and protected; at 101 the watchdog closes it. -/
def buyRepriceWatchRun : List (BuyRepriceWatch × ActorEvent) :=
  [(.buyer, .start 0), (.buyer, .approved (.market 1 .buy 1 .paper)), (.buyer, filledAt100 1),
    (.buyer, .resume), (.buyer, .resume), (.buyer, .resume), (.prices, .start 0),
    (.watchdog, .start 60)]

/-- The reason for which an actor closes a position. -/
def ActorPc.exitReason : ActorPc → Option ExitReason
  | .executing (.close _ reason) _ _ => reason
  | _ => none

end Sgr
