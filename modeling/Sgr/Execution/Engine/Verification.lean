import Sgr.Execution.Engine.Leverage
import Sgr.Risk.VerificationRuns

/-!
# The caps of the verification gate

Any number of `execute` calls share one `LiveVerificationGate`, next to losses that the
portfolio and the grid controller book and to a deactivation by hand. The request for the price
comes before `check_order_allowed`; from there to `record_order_submitted` a call does not
suspend. So the engine does to its gate what a run of orders, one at a time, does to it.
-/

open Concurrency

namespace Sgr

/-- What happens to an engine and its gate. -/
inductive VerificationEvent (ι : Type*)
  /-- A task of the engine runs a segment. -/
  | task (a : ι × TaskEvent)
  /-- `record_realized_loss`. -/
  | loss (loss : ℚ)
  /-- `deactivate`, by hand. -/
  | deactivate (reason : String)

/-- An engine with the LIVE orders that its gate has let through, newest first. -/
structure VerifiedPool (ι : Type*) where
  pool : Pool ι EngineState TaskPc
  admitted : List OrderRequest

/-- A segment takes a LIVE order past the gates. -/
def admits (o : OrderRequest) (p q : CallPc) : Bool :=
  decide (o.tradingMode = .live) && p.early && q.entered

/-- The order that a segment of a task takes past the gates. -/
def admittedBy : Job → TaskPc → TaskPc → Option OrderRequest
  | .execute o _, .call p, .call q => if admits o p q then some o else none
  | _, _, _ => none

/-- The same engine with a changed gate. -/
def EngineState.mapVerification (s : EngineState)
    (f : LiveVerificationState → LiveVerificationState) : EngineState :=
  { s with verification := s.verification.map f }

section Machine

variable {ι : Type*} [DecidableEq ι]

/-- The engine with its gate and the orders that have passed it. -/
def verificationMachine (cfg : EngineConfig) (job : ι → Job) :
    Machine (VerifiedPool ι) (VerificationEvent ι) where
  next P
    | .task a => ((engineMachine cfg job).next P.pool a).map fun Q =>
        ⟨Q, (admittedBy (job a.1) (P.pool.task a.1) (Q.task a.1)).toList ++ P.admitted⟩
    | .loss x =>
        some ⟨⟨P.pool.shared.mapVerification (·.recordRealizedLoss x), P.pool.task⟩, P.admitted⟩
    | .deactivate reason =>
        some ⟨⟨P.pool.shared.mapVerification (·.deactivate reason), P.pool.task⟩, P.admitted⟩

/-- A fresh engine with a new gate. -/
def verificationStart (p : LiveVerificationProfile) (now : Timestamp) (job : ι → Job) :
    VerifiedPool ι := ⟨engineStart (.init (some (.start p now))) job, []⟩

end Machine

/-- What the gate is told of an order that the quantisation has left with an amount. -/
def OrderRequest.gateOrder (o : OrderRequest) (a : Amount) (price : ℚ) : GateOrder where
  reduceOnly := o.reduceOnly
  notional := a.quantity * price
  leverage := o.metadata.targetLeverage.getD 1
  gridId := o.metadata.gridId

/-! ### Segments past the gates -/

section Past

variable {cfg : EngineConfig} {o : OrderRequest} {s t : EngineState} {p q : CallPc}

theorem Continues.verification_eq {r : OrderResult} (h : Continues o s r t q) :
    t.verification = s.verification := by
  cases h <;> rfl

theorem verification_afterSafe (o : OrderRequest) (s : EngineState) (a : Amount) (p : SafePc) :
    (afterSafe o s a p).1.verification = s.verification := by
  refine afterSafe_cases o s (φ := fun c => c.1.verification = s.verification) ?_ ?_
  · intro r t q h
    exact h.verification_eq
  · exact fun _ => rfl

theorem verification_executeInternal (cfg : EngineConfig) (o : OrderRequest) (s : EngineState)
    (a : Amount) : (executeInternal cfg o s a).1.verification = s.verification := by
  unfold executeInternal
  split
  · exact verification_afterSafe o _ a _
  · rfl

/-- Past the gates a call does not come back to them and leaves the verification gate alone. -/
theorem CallStep.past (h : CallStep cfg o s p t q) (hp : p.early = false) :
    q.entered = true ∧ t.verification = s.verification := by
  cases h with
  | gate hearly => exact absurd (hearly.symm.trans hp) (by simp)
  | enter a hearly => exact absurd (hearly.symm.trans hp) (by simp)
  | safe h => exact ⟨entered_afterSafe o _ _ _, verification_afterSafe o _ _ _⟩
  | goesOn _ h => exact ⟨h.entered, h.verification_eq⟩
  | polls => exact ⟨rfl, rfl⟩
  | updates h => exact ⟨h.entered, h.verification_eq⟩
  | aborts => exact ⟨rfl, rfl⟩
  | stores => exact ⟨rfl, rfl⟩

end Past

/-! ### The engine does to its gate what a run of orders does -/

/-- A segment leaves the gate alone and admits nothing, or an order comes to the gate and is
admitted exactly if the gate allows it. -/
inductive GateUse (o : OrderRequest) (g : LiveVerificationState) :
    Bool → Option LiveVerificationState → Prop
  | unused : GateUse o g false (some g)
  | refused {a : Amount} {price : ℚ} {now : Timestamp} {reason : String}
      {g' : LiveVerificationState}
      (h : g.check (o.gateOrder a price) now = (some reason, g')) : GateUse o g false (some g')
  | allowed {a : Amount} {price : ℚ} {now : Timestamp} {g' : LiveVerificationState}
      (h : g.check (o.gateOrder a price) now = (none, g')) :
      GateUse o g true (some (g'.recordOrderSubmitted o.metadata.gridId))

section Segments

variable {cfg : EngineConfig} {o : OrderRequest} {bypass : Bool} {s t : EngineState}
  {p q : CallPc} {e : CallEvent} {g : LiveVerificationState}

theorem admits_of_refused (h : q.refused = true) : admits o p q = false := by
  simp [admits, CallPc.entered, h]

theorem admits_of_early (h : q.early = true) : admits o p q = false := by
  simp [admits, CallPc.entered, h]

theorem admits_executeInternal (hp : p.early = true) (u : EngineState) (a : Amount) :
    admits o p (executeInternal cfg o u a).2 = decide (o.tradingMode = .live) := by
  rw [admits, hp, entered_executeInternal, Bool.and_true, Bool.and_true]

/-- The verification gate on an order with a price or without one. -/
theorem checkLiveVerificationAllowed_cases (o : OrderRequest) (g : LiveVerificationState)
    (a : Amount) (ticker : Except String Ticker) (now : Timestamp) :
    (∃ reason, checkLiveVerificationAllowed (o.withAmount a) (some g) ticker now =
      (some reason, some g)) ∨
    ∃ price, checkLiveVerificationAllowed (o.withAmount a) (some g) ticker now =
      ((g.check (o.gateOrder a price) now).1, some (g.check (o.gateOrder a price) now).2) := by
  unfold checkLiveVerificationAllowed
  dsimp only
  cases verificationPrice (o.withAmount a) ticker with
  | error e => exact .inl ⟨_, rfl⟩
  | ok price => exact .inr ⟨price, rfl⟩

theorem gateUse_verified (hgate : s.verification = some g) (hp : p.early = true)
    (ho : o.tradingMode = .live) (a : Amount) (ticker : Except String Ticker) (now : Timestamp) :
    GateUse o g (admits o p (verified cfg o s a ticker now).2)
      (verified cfg o s a ticker now).1.verification := by
  unfold verified
  dsimp only
  rw [hgate]
  rcases checkLiveVerificationAllowed_cases o g a ticker now with ⟨reason, hcheck⟩ | ⟨price, hcheck⟩
  · rw [hcheck]
    dsimp only
    rw [admits_of_refused rfl]
    exact .unused
  · rw [hcheck]
    generalize hr : g.check (o.gateOrder a price) now = r
    obtain ⟨verdict, g'⟩ := r
    cases verdict with
    | some reason =>
        dsimp only
        rw [admits_of_refused rfl]
        exact .refused hr
    | none =>
        dsimp only
        rw [verification_executeInternal, admits_executeInternal hp, decide_eq_true ho]
        exact .allowed hr

/-- What the gates of `execute` do with the verification gate. -/
theorem gateUse_of_gateEnd (hgate : s.verification = some g) (hp : p.early = true)
    {c : EngineState × CallPc} (h : GateEnd cfg o s c) :
    GateUse o g (admits o p c.2) c.1.verification := by
  cases h with
  | stays hq _ hu =>
      have hadmits : admits o p _ = false := hq.elim admits_of_early admits_of_refused
      rw [hu.verification, hgate, hadmits]
      exact .unused
  | verified a ticker now hlive hu =>
      exact gateUse_verified (hu.verification.trans hgate) hp hlive a ticker now
  | passes a hpaper hu =>
      rw [admits_executeInternal hp, decide_eq_false hpaper, verification_executeInternal,
        hu.verification, hgate]
      exact .unused

/-- What a segment of `execute` does with the verification gate. -/
theorem gateUse_of_callSegment (hgate : s.verification = some g)
    (hlive : ∀ a, p = .verification a → o.tradingMode = .live)
    (h : callSegment cfg o bypass s p e = some (t, q)) :
    GateUse o g (admits o p q) t.verification := by
  cases hp : p.early with
  | false =>
      have hadmits : admits o p q = false := by simp [admits, hp]
      rw [((callStep_of_callSegment h).past hp).2, hgate, hadmits]
      exact .unused
  | true => exact gateUse_of_gateEnd hgate hp (gateEnd_of_callSegment hp hlive h)

/-- Only a LIVE order waits for the price of the verification gate. -/
theorem live_of_verification {a : Amount}
    (hlive : ∀ a, p = .verification a → o.tradingMode = .live)
    (h : callSegment cfg o bypass s p e = some (t, .verification a)) :
    o.tradingMode = .live := by
  have hne : CallPc.entered (.verification a) ≠ true := by simp [CallPc.entered, CallPc.early]
  cases hp : p.early with
  | false => exact absurd ((callStep_of_callSegment h).past hp).1 hne
  | true =>
      have hend := gateEnd_of_callSegment hp hlive h
      generalize hc : (t, CallPc.verification a) = c at hend
      cases hend with
      | stays _ hlive _ =>
          cases hc
          exact hlive a rfl
      | verified _ _ _ hlive _ => exact hlive
      | @passes u b _ _ =>
          have hentered := entered_executeInternal cfg o u b
          rw [← hc] at hentered
          exact absurd hentered hne

end Segments

/-! ### Runs -/

section Runs

variable {ι : Type*} [DecidableEq ι] {cfg : EngineConfig} {job : ι → Job}
  {P Q : VerifiedPool ι} {c d : GateRun} {x : VerificationEvent ι}

/-- The gate is deactivated, or the total loss is at its limit. -/
def VerifiedPool.Stopped (P : VerifiedPool ι) : Prop :=
  ∃ g, P.pool.shared.verification = some g ∧ g.Stopped

/-- The distinct grids of the orders that the gate has let through. -/
def VerifiedPool.grids (P : VerifiedPool ι) : Finset UUID :=
  (P.admitted.filterMap fun o => o.metadata.gridId).toFinset

/-- What the gate has been told of an order. -/
def Told (o : OrderRequest) (g : GateOrder) : Prop := ∃ a price, g = o.gateOrder a price

/-- The engine has done to its gate what a run of orders has done. -/
structure FollowsRun (job : ι → Job) (P : VerifiedPool ι) (c : GateRun) : Prop where
  gate : P.pool.shared.verification = some c.gate
  orders : List.Forall₂ Told P.admitted c.allowed
  live : ∀ i o bypass a, job i = .execute o bypass →
    P.pool.task i = .call (.verification a) → o.tradingMode = .live

omit [DecidableEq ι] in
theorem followsRun_start (p : LiveVerificationProfile) (now : Timestamp) (job : ι → Job) :
    FollowsRun job (verificationStart p now job) (.start p now) := by
  refine ⟨rfl, .nil, fun i o bypass a hjob htask => ?_⟩
  change (job i).start = _ at htask
  rw [hjob] at htask
  cases htask

theorem gridId_eq_of_told {orders : List OrderRequest} {told : List GateOrder}
    (h : List.Forall₂ Told orders told) :
    orders.filterMap (fun o => o.metadata.gridId) = told.filterMap GateOrder.gridId := by
  induction h with
  | nil => rfl
  | @cons o g orders told ho _ ih =>
      obtain ⟨a, price, rfl⟩ := ho
      rw [List.filterMap_cons, List.filterMap_cons, ih]
      rfl

theorem FollowsRun.resume (h : FollowsRun job P c) {i : ι} {t : EngineState} {q : TaskPc}
    {admitted : List OrderRequest} (hgate : t.verification = some d.gate)
    (horders : List.Forall₂ Told admitted d.allowed)
    (hlive : ∀ o bypass a, job i = .execute o bypass → q = .call (.verification a) →
      o.tradingMode = .live) : FollowsRun job ⟨P.pool.resume i t q, admitted⟩ d := by
  refine ⟨hgate, horders, fun j o bypass a hjob htask => ?_⟩
  by_cases hji : j = i
  · subst hji
    exact hlive o bypass a hjob (by rwa [Pool.resume_task_self] at htask)
  · exact h.live j o bypass a hjob (by rwa [Pool.resume_task_of_ne _ hji] at htask)

/-- A use of the gate is at most one event of its run. -/
theorem GateUse.event {o : OrderRequest} {b : Bool} {v : Option LiveVerificationState}
    (h : GateUse o c.gate b v) :
    ∃ d, (d = c ∨ ∃ e, gateMachine.next c e = some d) ∧ v = some d.gate ∧
      ∀ orders, List.Forall₂ Told orders c.allowed →
        List.Forall₂ Told ((if b then [o] else []) ++ orders) d.allowed := by
  cases h with
  | unused => exact ⟨c, .inl rfl, rfl, fun _ horders => horders⟩
  | @refused a price now reason g hcheck =>
      refine ⟨⟨g, c.allowed⟩, .inr ⟨.order (o.gateOrder a price) now, ?_⟩, rfl,
        fun _ horders => horders⟩
      exact congrArg some (GateRun.step_order_of_some hcheck)
  | @allowed a price now g hcheck =>
      refine ⟨⟨g.recordOrderSubmitted o.metadata.gridId, o.gateOrder a price :: c.allowed⟩,
        .inr ⟨.order (o.gateOrder a price) now, ?_⟩, rfl,
        fun _ horders => .cons ⟨a, price, rfl⟩ horders⟩
      exact congrArg some (GateRun.step_order_of_none hcheck)

/-- A segment of a task is at most one event of the gate. -/
theorem FollowsRun.segment (h : FollowsRun job P c) {i : ι} {e : TaskEvent} {t : EngineState}
    {q : TaskPc} (hsegment : (job i).segment cfg P.pool.shared (P.pool.task i) e = some (t, q)) :
    ∃ d, (d = c ∨ ∃ e, gateMachine.next c e = some d) ∧
      FollowsRun job ⟨P.pool.resume i t q,
        (admittedBy (job i) (P.pool.task i) q).toList ++ P.admitted⟩ d := by
  cases hjob : job i with
  | trigger =>
      rw [hjob] at hsegment
      obtain ⟨p', e', q', hp, -, rfl, htrigger⟩ := segment_trigger_eq_some hsegment
      refine ⟨c, .inl rfl, h.resume ?_ ?_ ?_⟩
      · rcases triggerSegment_cases htrigger with ⟨-, -, rfl⟩ | rfl
        · exact h.gate
        · exact h.gate
      · exact h.orders
      · rintro o bypass a - ⟨⟩
  | execute o bypass =>
      rw [hjob] at hsegment
      obtain ⟨p', e', q', hp, -, rfl, hcall⟩ := segment_execute_eq_some hsegment
      have hlive : ∀ a, p' = .verification a → o.tradingMode = .live := by
        rintro a rfl
        exact h.live i o bypass a hjob hp
      have hadmitted : (admittedBy (.execute o bypass) (.call p') (.call q')).toList =
          if admits o p' q' then [o] else [] := by
        rw [admittedBy]
        split <;> rfl
      obtain ⟨d, hd, hgate, horders⟩ := (gateUse_of_callSegment h.gate hlive hcall).event
      rw [hp, hadmitted]
      refine ⟨d, hd, h.resume hgate (horders _ h.orders) ?_⟩
      rintro o' bypass' a hjob' ⟨⟩
      rw [hjob] at hjob'
      cases hjob'
      exact live_of_verification hlive hcall

/-- One step of the engine is at most one event of its gate. -/
theorem FollowsRun.step (h : FollowsRun job P c)
    (hnext : (verificationMachine cfg job).next P x = some Q) :
    ∃ d, (d = c ∨ ∃ e, gateMachine.next c e = some d) ∧ FollowsRun job Q d := by
  cases x with
  | loss y =>
      obtain rfl := Option.some.inj hnext
      refine ⟨_, .inr ⟨.loss y, rfl⟩, ?_, h.orders, h.live⟩
      change P.pool.shared.verification.map _ = _
      rw [h.gate]
      rfl
  | deactivate reason =>
      obtain rfl := Option.some.inj hnext
      refine ⟨_, .inr ⟨.deactivate reason, rfl⟩, ?_, h.orders, h.live⟩
      change P.pool.shared.verification.map _ = _
      rw [h.gate]
      rfl
  | task a =>
      obtain ⟨i, e⟩ := a
      obtain ⟨R, hR, rfl⟩ := Option.map_eq_some_iff.1 hnext
      obtain ⟨t, q, hsegment, rfl⟩ := Pool.machine_next_eq_some_iff.1 hR
      rw [Pool.resume_task_self]
      exact h.segment hsegment

/-- The orders that have passed the gate stay. -/
theorem suffix_admitted_of_next (hnext : (verificationMachine cfg job).next P x = some Q) :
    P.admitted <:+ Q.admitted := by
  cases x with
  | loss y =>
      obtain rfl := Option.some.inj hnext
      exact List.suffix_rfl
  | deactivate reason =>
      obtain rfl := Option.some.inj hnext
      exact List.suffix_rfl
  | task a =>
      obtain ⟨R, -, rfl⟩ := Option.map_eq_some_iff.1 hnext
      exact List.suffix_append _ _

/-- A gate that has stopped lets nothing through. -/
theorem FollowsRun.stopped_step (h : FollowsRun job P c) (hstopped : c.gate.Stopped)
    (hnext : (verificationMachine cfg job).next P x = some Q) :
    ∃ d, FollowsRun job Q d ∧ d.gate.Stopped ∧ Q.admitted = P.admitted := by
  obtain ⟨d, hd, hQ⟩ := h.step hnext
  have hsame : d.gate.Stopped ∧ d.allowed = c.allowed := by
    rcases hd with rfl | ⟨e, he⟩
    · exact ⟨hstopped, rfl⟩
    · exact (gateRunStep_of_next he).stopped hstopped
  refine ⟨d, hQ, hsame.1, ((suffix_admitted_of_next hnext).eq_of_length ?_).symm⟩
  rw [h.orders.length_eq, hQ.orders.length_eq, hsame.2]

/-- The engine does to its gate what a run of orders does. -/
theorem exists_counted_of_run {p : LiveVerificationProfile} {now : Timestamp}
    {xs : List (VerificationEvent ι)}
    (hrun : (verificationMachine cfg job).run (verificationStart p now job) xs = some P) :
    ∃ c, FollowsRun job P c ∧ Counted p c := by
  refine (verificationMachine cfg job).run_invariant
    (fun P => ∃ c, FollowsRun job P c ∧ Counted p c) ?_
    ⟨_, followsRun_start p now job, counted_start p now⟩ hrun
  rintro P x Q ⟨c, hfollows, hcounted⟩ hnext
  obtain ⟨d, hd, hQ⟩ := hfollows.step hnext
  rcases hd with rfl | ⟨e, he⟩
  · exact ⟨d, hQ, hcounted⟩
  · exact ⟨d, hQ, hcounted.step (gateRunStep_of_next he)⟩

/-- Nothing comes through a gate any more after it has stopped. -/
theorem FollowsRun.admitted_eq (h : FollowsRun job P c) (hstopped : c.gate.Stopped)
    {ys : List (VerificationEvent ι)} (hrun : (verificationMachine cfg job).run P ys = some Q) :
    Q.admitted = P.admitted := by
  have hend : ∃ c, FollowsRun job Q c ∧ c.gate.Stopped ∧ Q.admitted = P.admitted := by
    refine (verificationMachine cfg job).run_invariant
      (fun Q => ∃ c, FollowsRun job Q c ∧ c.gate.Stopped ∧ Q.admitted = P.admitted) ?_
      ⟨c, h, hstopped, rfl⟩ hrun
    rintro Q y R ⟨c, hQ, hstopped, hsame⟩ hnext
    obtain ⟨d, hR, hstopped', heq⟩ := hQ.stopped_step hstopped hnext
    exact ⟨d, hR, hstopped', heq.trans hsame⟩
  obtain ⟨_, _, _, hsame⟩ := hend
  exact hsame

/-- Whatever calls, losses and deactivations are interleaved: the gate lets no more orders and
no more grids through than its profile says, and none after it has stopped. -/
theorem verificationMachine_capped {p : LiveVerificationProfile} {now : Timestamp}
    {xs : List (VerificationEvent ι)}
    (hrun : (verificationMachine cfg job).run (verificationStart p now job) xs = some P) :
    P.admitted.length ≤ p.maxOrders ∧ P.grids.card ≤ p.maxConcurrentGrids ∧
      ∀ ys Q, P.Stopped → (verificationMachine cfg job).run P ys = some Q →
        Q.admitted = P.admitted := by
  obtain ⟨c, hfollows, hcounted⟩ := exists_counted_of_run hrun
  refine ⟨?_, ?_, fun ys Q hstopped hrest => ?_⟩
  · rw [hfollows.orders.length_eq]
    exact hcounted.orders_le
  · rw [VerifiedPool.grids, gridId_eq_of_told hfollows.orders]
    exact hcounted.grids_le
  · obtain ⟨g, hg, hstopped⟩ := hstopped
    rw [hfollows.gate] at hg
    obtain rfl := Option.some.inj hg
    exact hfollows.admitted_eq hstopped hrest

end Runs

/-- Two orders of a grid whose calls are interleaved all the way to the price. -/
def overlappingOpenings : List (VerificationEvent Bool) :=
  openingEvents.flatMap fun a => [.task (true, a.1.2), .task (false, a.1.2)]

theorem verificationMachine_capped_overlapping :
    ∃ P, (verificationMachine liveEngine fun _ => .execute (gridOpening 1) false).run
        (verificationStart verificationGate.profile 0 fun _ => .execute (gridOpening 1) false)
        overlappingOpenings = some P ∧ P.admitted.length = 1 ∧
      P.admitted.length ≤ 1 ∧ P.grids.card ≤ 1 ∧
        ∀ ys Q, P.Stopped →
          (verificationMachine liveEngine fun _ => .execute (gridOpening 1) false).run P ys =
            some Q → Q.admitted = P.admitted := by
  have hend : ((verificationMachine liveEngine fun _ => .execute (gridOpening 1) false).run
      (verificationStart verificationGate.profile 0 fun _ => .execute (gridOpening 1) false)
      overlappingOpenings).any (fun P => P.admitted.length == 1) = true := by
    decide +kernel
  obtain ⟨P, hP, hlength⟩ := (Option.any_eq_true _ _).1 hend
  exact ⟨P, hP, beq_iff_eq.1 hlength, verificationMachine_capped hP⟩

end Sgr
