import Sgr.Orchestrator.Segments

/-!
# Each fill is booked at most once

Over every run of cycles, restarts included, the portfolio books no more than the exchange
has filled, as long as a filled row, or an order of an earlier call, is found only while its
fill is not booked and nobody has still to book it. A call whose look-up finds the filled
row of an order that is booked answers with the fill, and it is booked again, as a BUY.
-/

open Collection Concurrency Accounting

namespace Sgr

section Steps

variable {ι : Type*} [DecidableEq ι] {order : ι → OrderRequest} {T U : TradingState ι} {i : ι}

omit [DecidableEq ι] in
/-- Only the tasks have changed, and none has anything new to book. -/
theorem Accounted.frame {U : TradingState ι} (h : Accounted order T)
    (hsound : U.vouchers.Sound) (hfilled : ∀ j, T.filled j ≤ U.filled j)
    (htasks : ∀ j, CycleOk order T j (U.task j)) (habout : U.about = T.about)
    (hsubmitted : U.submitted = T.submitted) (hbooked : U.booked = T.booked)
    (horders : U.engine.safety.orders = T.engine.safety.orders) (hwriter : U.writer = T.writer) :
    Accounted order U where
  vouchers := hsound
  filled j := (h.filled j).trans (hfilled j)
  tasks j := (htasks j).frame hfilled (by rw [habout]) fun hj => hsubmitted ▸ hj
  rows id row hrow := by
    rw [horders] at hrow
    exact (h.rows id row hrow).mono hfilled (by rw [hwriter]) fun j hj => hsubmitted ▸ hj
  booked b hb := by
    rw [hbooked] at hb
    exact (h.booked b hb).mono hfilled

omit [DecidableEq ι] in
/-- A handler that goes on has nothing to book later. -/
theorem claim_of_fillResume {pcfg : PortfolioConfig} {s s' : PortfolioState} {pc pc' : FillPc}
    (h : fillResume pcfg s pc = some (s', pc')) (source : ι) (about : Option ι) :
    (CyclePc.booking source pc').claim about = none := by
  unfold fillResume at h
  split at h
  · split at h <;> cases h <;> rfl
  · split at h <;> cases h <;> rfl
  · cases h
    rfl
  · split at h
    · cases h
      rfl
    · cases h
      split <;> rfl
  · cases h
    rfl
  · split at h <;> cases h <;> rfl
  · cases h
    rfl
  · cases h
  · cases h

/-- The handler of a cycle goes on. -/
theorem accounted_book (hT : Accounted order T) (pcfg : PortfolioConfig) {source : ι}
    {pc pc' : FillPc} {portfolio : PortfolioState} (htask : T.task i = .booking source pc)
    (h : fillResume pcfg T.portfolio pc = some (portfolio, pc')) :
    Accounted order
      { T with
        portfolio := portfolio
        task := Function.update T.task i (.booking source pc')
        booked := T.log (order i) source (bookedOnResume T.portfolio pc) } := by
  have hclaim : ∀ about, (CyclePc.booking source pc').claim about = none :=
    claim_of_fillResume h source
  have hpc : ∀ U, CycleOk order U i (.booking source pc') := fun U => by
    cases pc' <;> first | trivial | cases hclaim none
  have hhanding := Handing.of_accounted hT i
  cases hbook : bookedOnResume T.portfolio pc with
  | none => exact hhanding.drop.next (hclaim _) (hpc _)
  | some b =>
      unfold bookedOnResume at hbook
      split at hbook
      next f existing q =>
        split at hbook
        next =>
          cases hbook
          have hcarries : T.carries i = some source := by
            rw [TradingState.carries, htask]
            rfl
          have hof : FillOf order T (order i).id source q.quantity (inferSide f.result) := by
            have hi := hT.tasks i
            rw [htask] at hi
            exact hi
          rw [hcarries] at hhanding
          have hbooked := hhanding.book
            (b := ⟨(order i).id, inferSide f.result, q.quantity, source⟩) rfl hof
          exact hbooked.next (hclaim _) (hpc _)
        next => cases hbook
      next => cases hbook

omit [DecidableEq ι] in
theorem claim_crash (pc : CyclePc ι) (about : Option ι) : pc.crash.claim about = none := by
  unfold CyclePc.crash
  split
  · rfl
  · rfl

theorem accounted_step {cfg : EngineConfig} {pcfg : PortfolioConfig} {bypass : ι → Bool}
    {a : TradingAction ι} (hT : Accounted order T) (htruth : TruthfulAdapter order T a)
    (hcond : FindsUnclaimedFill order T a)
    (h : (tradingMachine cfg pcfg order bypass).next T a = some U) : Accounted order U := by
  cases a with
  | wake i e ids about =>
      unfold tradingMachine at h
      dsimp only at h
      split at h
      next p htask =>
        obtain ⟨⟨s, q⟩, hseg, rfl⟩ := Option.map_eq_some_iff.1 h
        exact accounted_advance hT pcfg htask hseg htruth hcond
      next => cases h
  | book i =>
      unfold tradingMachine at h
      dsimp only at h
      split at h
      next source pc htask =>
        obtain ⟨⟨portfolio, pc'⟩, hresume, rfl⟩ := Option.map_eq_some_iff.1 h
        exact accounted_book hT pcfg htask hresume
      next => cases h
  | fill i quantity =>
      change (if i ∈ T.submitted ∧ 0 ≤ quantity then some _ else none) = some U at h
      split at h
      next hcan =>
        cases h
        refine hT.frame hT.vouchers (fun j => ?_) hT.tasks rfl rfl rfl rfl rfl
        dsimp only
        by_cases hj : j = i
        · subst hj
          rw [Function.update_self]
          exact le_add_of_nonneg_right hcan.2
        · rw [Function.update_of_ne hj]
      next => cases h
  | prices prices =>
      cases h
      exact hT.frame hT.vouchers (fun _ => le_refl _) hT.tasks rfl rfl rfl rfl rfl
  | trigger =>
      cases h
      exact hT.frame hT.vouchers (fun _ => le_refl _) hT.tasks rfl rfl rfl rfl rfl
  | crash killSwitch verification portfolio =>
      cases h
      refine hT.frame ?_ (fun _ => le_refl _) (fun j => ?_) rfl rfl rfl rfl rfl
      · have hcarries : TradingState.carries
            { T with
              engine := ⟨T.engine.safety.restart, killSwitch, Dict.empty, verification⟩
              portfolio := portfolio
              task := fun i => (T.task i).crash } = fun _ => none := by
          funext j
          exact claim_crash (T.task j) (T.about j)
        rw [TradingState.vouchers, hcarries]
        exact hT.vouchers.dropAll
      · have hj := hT.tasks j
        dsimp only
        unfold CyclePc.crash
        split
        next htask =>
          rw [htask] at hj
          exact hj
        next => trivial

end Steps

section Runs

variable {ι : Type*} [DecidableEq ι] (order : ι → OrderRequest)

/-- Over every run of cycles, crashes included, at adapters that answer truthfully: when a
filled row is found, and an order of an earlier call answered with, only while the fill is
unclaimed, and only for BUY rows, nothing is booked beyond what was filled, no fill is
booked twice, and each has the side of its order. -/
theorem booksFillsOnce_of_findsUnclaimedFill (cfg : EngineConfig) (pcfg : PortfolioConfig)
    (bypass : ι → Bool) (verification : Option LiveVerificationState)
    (portfolio : PortfolioState) {as : List (TradingAction ι)} {T : TradingState ι}
    (hok : (tradingMachine cfg pcfg order bypass).Guarded
      (fun T a => TruthfulAdapter order T a ∧ FindsUnclaimedFill order T a)
      (tradingStart verification portfolio) as)
    (hrun : (tradingMachine cfg pcfg order bypass).run
      (tradingStart verification portfolio) as = some T) :
    BooksFillsOnce order T :=
  .of_accounted ((tradingMachine cfg pcfg order bypass).guarded_run_invariant _
    (Accounted order) (fun _ _ _ hT hok h => accounted_step hT hok.1 hok.2 h)
    (accounted_tradingStart verification portfolio) hok hrun)

end Runs

section Decidable

variable {ι : Type*} [DecidableEq ι] [Fintype ι] {order : ι → OrderRequest}

instance (T : TradingState ι) (i j : ι) (r : OrderResult) :
    Decidable (TruthfulAnswer order T i j r) :=
  decidable_of_iff
    (j ∈ T.submitted ∧ (order j).id = (order i).id ∧
      (r.requestId = (order i).id ∨ ∀ k, r.requestId ≠ (order k).id) ∧
      (r.status.isBooked = true → r.filledQuantity ≤ T.filled j) ∧
      (r.status.isBooked = true → inferSide r = (order j).side))
    ⟨fun ⟨h₁, h₂, h₃, h₄, h₅⟩ => ⟨h₁, h₂, h₃, h₄, h₅⟩,
      fun h => ⟨h.created, h.id, h.requestId, h.quantity, h.side⟩⟩

instance (T : TradingState ι) (j : ι) : Decidable (T.Unclaimed j) :=
  decidable_of_iff ((∀ b ∈ T.booked, b.source ≠ j) ∧ ∀ i, T.carries i ≠ some j)
    ⟨fun ⟨h₁, h₂⟩ => ⟨h₁, h₂⟩, fun h => ⟨h.notBooked, h.notCarried⟩⟩

instance (T : TradingState ι) (a : TradingAction ι) : Decidable (TruthfulAdapter order T a) :=
  inferInstanceAs (Decidable (∀ x ∈ T.answer a, TruthfulAnswer order T x.1 x.2.1 x.2.2))

instance (T : TradingState ι) (a : TradingAction ι) :
    Decidable (FindsUnclaimedFill order T a) :=
  decidable_of_iff
    ((∀ j ∈ T.recovers order a, (order j).side = .buy ∧ T.Unclaimed j) ∧
      ∀ j ∈ a.meets, T.Unclaimed j)
    ⟨fun ⟨h₁, h₂⟩ => ⟨h₁, h₂⟩, fun h => ⟨h.row, h.order⟩⟩

end Decidable

/-- A PAPER engine with an order repository. -/
def persistingEngine : EngineConfig := { paperEngine with repo := true }

/-- The ids and times of the examples. -/
def exampleIds : FillIds := ⟨0, 1, 1, 0, 0⟩

/-- The events that take an order into the safe executor; the leverage is asked for once in
a process. -/
def cycleGates (i : Bool) (cached : Bool) : List (TradingAction Bool) :=
  [.wake i (.call (fun _ => none) fun _ => none) exampleIds i,
    .wake i (.limitsAnswer (.ok (.unlimited .binance ["BTC/USDT"]))) exampleIds i] ++
  (if cached then [] else [.wake i (.leverageAnswer (.ok ())) exampleIds i]) ++
  [.wake i (.quantizeAnswer (.error "") (.error "") 0) exampleIds i]

/-- The events of an order that is filled completely, up to the update of its row. -/
def cycleFilled (i : Bool) (side : Side) : List (TradingAction Bool) :=
  cycleGates i false ++
    [.wake i (.safe .lookupAnswers) exampleIds i, .wake i (.safe .resume) exampleIds i,
      .wake i (.safe .createCommits) exampleIds i, .wake i (.safe .resume) exampleIds i,
      .fill i 1, .wake i (.safe (.submitReturns (FillCall.btc 7 side 1 100).result)) exampleIds i,
      .wake i (.safe .updateCommits) exampleIds i]

/-- The events of an order whose row is found. -/
def cycleRecovers (i : Bool) (cached : Bool) : List (TradingAction Bool) :=
  cycleGates i cached ++
    [.wake i (.safe .lookupAnswers) exampleIds i, .wake i (.safe .resume) exampleIds i]

/-- A BUY order is filled and its row updated, the process dies, and the retry after the
restart books the fill. -/
theorem booksFillsOnce_of_findsUnclaimedFill_crashed :
    ∃ T, (tradingMachine persistingEngine ⟨.paper, none⟩ (fun _ : Bool => .market 7 .buy 1 .paper)
        fun _ => false).run (tradingStart none (.init 1000 none))
        (cycleFilled false .buy ++ [.crash false none (.init 1000 none)] ++
          cycleRecovers true false) = some T ∧
      BooksFillsOnce (fun _ => .market 7 .buy 1 .paper) T := by
  refine Exists.imp (fun T hrun => ⟨hrun, ?_⟩) ⟨_, rfl⟩
  exact booksFillsOnce_of_findsUnclaimedFill _ _ _ _ _ _ (by decide +kernel) hrun

/-- A SELL order is filled and booked, and its row is found by a second call. -/
def twiceBooked : List (TradingAction Bool) :=
  cycleFilled false .sell ++
    [.wake false (.safe .resume) exampleIds false, .wake false .published exampleIds false,
      .wake false .statusCommits exampleIds false, .wake false .resume exampleIds false,
      .book false] ++
    cycleRecovers true true ++ [.book true]

/-- The same SELL order once more after its fill is booked: the second answer is that of the
row, and the portfolio books it as a BUY. -/
theorem not_booksFillsOnce :
    ¬ ∀ (as : List (TradingAction Bool)) (T : TradingState Bool),
      (tradingMachine persistingEngine ⟨.paper, none⟩ (fun _ : Bool => .market 7 .sell 1 .paper)
        fun _ => false).Guarded (TruthfulAdapter fun _ => .market 7 .sell 1 .paper)
        (tradingStart none (.init 1000 none)) as →
      (tradingMachine persistingEngine ⟨.paper, none⟩ (fun _ : Bool => .market 7 .sell 1 .paper)
        fun _ => false).run (tradingStart none (.init 1000 none)) as = some T →
      BooksFillsOnce (fun _ => .market 7 .sell 1 .paper) T := by
  intro h
  have hrun : ((tradingMachine persistingEngine ⟨.paper, none⟩
      (fun _ : Bool => .market 7 .sell 1 .paper) fun _ => false).run
        (tradingStart none (.init 1000 none)) twiceBooked).any (fun T =>
          !decide (T.booked.map BookedFill.source).Nodup) = true := by
    decide +kernel
  obtain ⟨T, hT, hbooked⟩ := (Option.any_eq_true _ _).1 hrun
  have honce := (h twiceBooked T (by decide +kernel) hT).once
  simp [honce] at hbooked

end Sgr
