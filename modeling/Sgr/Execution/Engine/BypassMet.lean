import Sgr.Execution.Engine.Bypass

/-!
# Protective orders that meet the kill switch

Where the engine reads the kill switch on the path of a call with the bypass, the call
ends in another way than without the kill switch. The LIVE preflight adds its failure to
the text of the refusal; the monitoring cancels the order where it would have asked for
it.
-/

open Collection Concurrency

namespace Sgr

section Paths

variable {cfg : EngineConfig} {o : OrderRequest} {env : Environment} {s : EngineState}

/-- The failure of the kill switch is part of the summary. -/
theorem rejectionSummary_livePreflight_ne (info : Except ExchangeError ExchangeInfo)
    (answers : LiveAnswers) :
    rejectionSummary (livePreflight cfg o false info answers) ≠
      rejectionSummary (livePreflight cfg o true info answers) := by
  have hpasses : rejectionSummary (livePreflight cfg o false info answers) =
      rejectionSummary (staticChecks o ++ [checkSymbolPrecisionAndLimits o info] ++
        liveChecks cfg.limits o answers) := by
    have hnone : failures [checkKillSwitchInactive false] = [] := rfl
    rw [livePreflight, earlyPreflight, rejectionSummary, rejectionSummary, failures_append,
      failures_append, failures_append _ (liveChecks _ _ _), hnone, List.append_nil]
  have hlonger := length_rejectionSummary_lt (c := checkKillSwitchInactive true) rfl (by decide)
    (staticChecks o ++ [checkSymbolPrecisionAndLimits o info])
    (liveChecks cfg.limits o answers)
  rw [← hpasses, ← List.singleton_append, ← List.append_assoc] at hlonger
  intro heq
  exact absurd hlonger (by rw [heq]; exact lt_irrefl _)

/-- A call that has found no row comes to the exchange. -/
theorem reaches_submitting_of_lookedUp (cfg : EngineConfig) (o : OrderRequest)
    (env : Environment) (s : EngineState) :
    ∃ t, t.killSwitch = s.killSwitch ∧
      Reaches (Execution.next cfg o true env)
        ⟨[.getExchangeInfo], s, .safe o.amount (.lookedUp none)⟩
        ⟨[.getExchangeInfo, .placeOrder o], t, .safe o.amount .submitting⟩ := by
  let u := s.safety.track o.id (placeholder o)
  have hcreate : ∃ v, Execution.next cfg o true env
      ⟨[.getExchangeInfo], s.withSafety u, .safe o.amount .persistPending⟩ =
        some ⟨[.getExchangeInfo], s.withSafety v, .safe o.amount .pendingPersisted⟩ := by
    rw [next_safe, withAmount_amount, Environment.safeEvent]
    split
    · rename_i hcommits
      refine ⟨u.putRow o.id (pendingRow o), ?_⟩
      rw [Bool.and_eq_true] at hcommits
      have hnone : (u.orders o.id).isNone = true := hcommits.2
      simp only [safeSegment, EngineState.withSafety_safety, hnone, if_true]
      rfl
    · exact ⟨u, rfl⟩
  obtain ⟨v, hcreate⟩ := hcreate
  refine ⟨s.withSafety (v.submit o.id), rfl, .head (y := ⟨[.getExchangeInfo], s.withSafety u,
    .safe o.amount .persistPending⟩) rfl (.head hcreate (.head rfl (.refl _)))⟩

theorem reaches_submitting (henters : Enters cfg o env) (hpaper : cfg.mode = .paper)
    (hreduce : o.reduceOnly = true) {info : Except ExchangeError ExchangeInfo}
    (hinfo : env.limits [.getExchangeInfo] = some info) (hsubmits : Submits cfg o env s info) :
    ∃ t, t.killSwitch = s.killSwitch ∧
      Reaches (Execution.next cfg o true env) (.start s)
        ⟨[.getExchangeInfo, .placeOrder o], t, .safe o.amount .submitting⟩ := by
  have hlimits : env.event [.getExchangeInfo] o s .limits = .limitsAnswer info := by
    simp only [Environment.event, hinfo]
  have hlive : ¬ cfg.mode = .live := by simp [hpaper]
  have hafter : afterLimits cfg o s info = executeInternal cfg o s o.amount := by
    unfold afterLimits afterPreflight
    dsimp only
    rw [if_neg hlive, hsubmits.eligible, if_neg (by decide), if_pos hreduce, verify,
      if_pos (by rwa [henters.mode])]
  have hpath := (reaches_limits (s := s) henters fun _ => rfl).trans
    (.head (next_eq hlimits rfl) (.refl _))
  rw [hafter, executeInternal, if_pos henters.pool, safeCall, withAmount_amount,
    hsubmits.inFlight] at hpath
  cases hrepo : cfg.repo with
  | false =>
      rw [hrepo] at hpath
      exact ⟨s.withSafety ((s.safety.track o.id (placeholder o)).submit o.id), rfl, hpath⟩
  | true =>
      rw [hrepo] at hpath
      have hlookup : Execution.next cfg o true env
          ⟨[.getExchangeInfo], s, .safe o.amount .lookup⟩ =
            some ⟨[.getExchangeInfo], s, .safe o.amount (.lookedUp none)⟩ := by
        rw [next_safe, withAmount_amount, Environment.safeEvent]
        cases hanswers : env.lookup [.getExchangeInfo] with
        | false => rfl
        | true =>
            have hnone := hsubmits.orders hrepo hanswers
            simp only [if_true, safeSegment, hnone]
            rfl
      obtain ⟨t, ht, hsubmitting⟩ := reaches_submitting_of_lookedUp cfg o env s
      exact ⟨t, ht, hpath.trans (.head hlookup hsubmitting)⟩

end Paths

/-- The answer of the LIVE preflight to an order that it refuses. -/
def preflightRefusal (cfg : EngineConfig) (o : OrderRequest)
    (checks : List PreflightCheckResult) : OrderResult :=
  rejectedResult cfg o ("Preflight validation failed: " ++ rejectionSummary checks)

/-- The call does not end with the answer `r` after two exchange calls. -/
def Elsewhere (r : OrderResult) (x : Execution) : Prop :=
  2 < x.calls.length ∨
    x.calls.length = 2 ∧
      match x.pc with
      | .safe _ p => p.beforeSubmit = true
      | .rejected r' | .returned r' => r' ≠ r
      | _ => False

section Elsewhere

variable {cfg : EngineConfig} {o : OrderRequest} {env : Environment} {s : EngineState}
  {calls : List ExchangeCall} {r : OrderResult}

theorem Elsewhere.answer_ne {x : Execution} (h : Elsewhere r x)
    (hlength : x.calls.length = 2) : x.pc.answer ≠ some (.returned r) := by
  obtain ⟨calls, t, p⟩ := x
  rcases h with hlong | ⟨-, h⟩
  · exact absurd hlong (by rw [hlength]; decide)
  · intro hanswer
    cases p with
    | rejected r' | returned r' =>
        cases hanswer
        exact h rfl
    | _ => cases hanswer

theorem elsewhere_of_prefix {x : Execution} (h : calls <+: x.calls)
    (hlength : 2 < calls.length) : Elsewhere r x := .inl (hlength.trans_le h.length_le)

/-- An answer that is marked as a duplicate or as unknown is no refusal of the
preflight. -/
theorem elsewhere_handleResult (t : EngineState) {r' : OrderResult}
    (hcalls : calls.length = 2)
    (hmarked : (r'.rawResponse.duplicate || r'.rawResponse.unknown) = true)
    (hr : (r.rawResponse.duplicate || r.rawResponse.unknown) = false) :
    Elsewhere r (.moved o calls (handleResult o t r')) := by
  rw [handleResult, if_pos hmarked]
  refine .inr ⟨by simp [Execution.moved, CallPc.calls, finish, hcalls], ?_⟩
  rintro rfl
  rw [hmarked] at hr
  cases hr

theorem calls_of_beforeSubmit (o : OrderRequest) (a : Amount) {p : SafePc}
    (hp : p.beforeSubmit = true) : CallPc.calls o (.safe a p) = [] := by
  cases p <;> first | rfl | cases hp

theorem elsewhere_afterSafe (hcalls : calls.length = 2) (t : EngineState) (a : Amount)
    {p q : SafePc} {e : SafeEvent} {u v : ExecutorState}
    (hr : (r.rawResponse.duplicate || r.rawResponse.unknown) = false)
    (hp : p.beforeSubmit = true) (h : SafeStep cfg.repo (o.withAmount a) v p e u q) :
    Elsewhere r (.moved o calls (afterSafe o t a q)) := by
  have hsubmit : Elsewhere r (.moved o calls (t, .safe a .submitting)) := by
    refine .inl ?_
    simp [Execution.moved, CallPc.calls, hcalls]
  have hstays {q : SafePc} (hq : q.beforeSubmit = true) :
      Elsewhere r (.moved o calls (t, .safe a q)) := by
    refine .inr ⟨?_, hq⟩
    simp [Execution.moved, calls_of_beforeSubmit o a hq, hcalls]
  cases h with
  | callBlocked cached _ => exact elsewhere_handleResult t hcalls rfl hr
  | callLookup | lookupAnswers | lookupFails | accepted | createCommits | createFails =>
      exact hstays rfl
  | callSubmit | submits => exact hsubmit
  | recovered row =>
      refine elsewhere_handleResult t hcalls ?_ hr
      unfold recoveredResult
      split <;> rfl
  | _ => cases hp

theorem elsewhere_next {bypass : Bool}
    (hr : (r.rawResponse.duplicate || r.rawResponse.unknown) = false) {x y : Execution}
    (h : Elsewhere r x) (hnext : x.next cfg o bypass env = some y) : Elsewhere r y := by
  have hprefix : x.calls <+: y.calls := calls_prefix_of_reaches (.head hnext (.refl _))
  rcases h with hlong | ⟨hcalls, h⟩
  · exact elsewhere_of_prefix hprefix hlong
  · obtain ⟨calls, t, p⟩ := x
    cases p with
    | safe a p =>
        rw [next_safe] at hnext
        obtain ⟨⟨u, q⟩, hsegment, rfl⟩ := Option.map_eq_some_iff.1 hnext
        exact elsewhere_afterSafe hcalls _ a hr h (safeStep_of_safeSegment hsegment)
    | rejected r' | returned r' => cases hnext
    | _ => exact absurd h id

/-- The preflight refuses the order in another text, or lets it pass. -/
theorem elsewhere_afterPreflight {checks checks' : List PreflightCheckResult}
    {t : EngineState} (now : Timestamp) (hcalls : calls.length = 2)
    (hmode : o.tradingMode = .live) (hpool : cfg.pool o.symbol.exchange = true)
    (hreduce : o.reduceOnly = true)
    (htext : rejectionSummary checks ≠ rejectionSummary checks') :
    Elsewhere (preflightRefusal cfg o checks')
      (.moved o calls (afterPreflight cfg o t checks now)) := by
  have hrejected (t : EngineState) {reason : String}
      (h : reason ≠ "Preflight validation failed: " ++ rejectionSummary checks') :
      Elsewhere (preflightRefusal cfg o checks')
        (.moved o calls (t, .rejected (rejectedResult cfg o reason))) := by
    refine .inr ⟨by simp [Execution.moved, CallPc.calls, hcalls], fun heq => h ?_⟩
    exact Option.some.inj (congrArg (fun r => r.rawResponse.rejectionReason) heq)
  have hverified (ticker : Except String Ticker) :
      Elsewhere (preflightRefusal cfg o checks')
        (.moved o calls (verified cfg o t o.amount ticker now)) := by
    unfold verified
    dsimp only
    split
    · rename_i reason hreason
      refine hrejected _ fun heq => head?_checkLiveVerificationAllowed_ne hreason ?_
      rw [heq]
      simp
    · rw [executeInternal, if_pos hpool]
      exact elsewhere_afterSafe hcalls _ _ rfl rfl (safeStep_safeCall _ _ _)
  unfold afterPreflight
  split
  · exact hrejected t fun heq => htext (by simpa using heq)
  · rw [verify, if_neg (not_not.2 hmode)]
    split
    · exact hverified _
    · refine .inl ?_
      simp [Execution.moved, CallPc.calls, hcalls]

end Elsewhere

section Met

variable {cfg : EngineConfig} {o : OrderRequest} {env : Environment} {s : EngineState}

/-- The LIVE preflight refuses the order because of the kill switch. -/
theorem not_ignoresKillSwitch_of_live (hreduce : o.reduceOnly = true) (henters : Enters cfg o env)
    (hlive : cfg.mode = .live) {info : Except ExchangeError ExchangeInfo}
    (hinfo : env.limits [.getExchangeInfo] = some info) {answers : LiveAnswers}
    {now : Timestamp}
    (hanswers : env.live [.getExchangeInfo, .liveChecks] = some (answers, now)) :
    ¬ IgnoresKillSwitch cfg o env s := by
  let r := preflightRefusal cfg o (livePreflight cfg o true info answers)
  have hrefused : afterPreflight cfg o (s.withKillSwitch true)
      (livePreflight cfg o true info answers) now =
        (s.withKillSwitch true, .rejected r) := by
    have hfails : eligible (livePreflight cfg o true info answers) = false := by
      rw [livePreflight, earlyPreflight, eligible_append, eligible_append]
      simp [eligible, checkKillSwitchInactive]
    unfold afterPreflight
    rw [hfails]
    rfl
  have hactive := (reaches_live (s := s.withKillSwitch true) henters
    (fun _ => rfl) hlive hinfo).trans (.head (next_live hanswers) (.refl _))
  have hinactive := (reaches_live (s := s.withKillSwitch false) henters
    (fun _ => rfl) hlive hinfo).trans (.head (next_live hanswers) (.refl _))
  have htext : rejectionSummary (livePreflight cfg o false info answers) ≠
      rejectionSummary (livePreflight cfg o true info answers) :=
    rejectionSummary_livePreflight_ne info answers
  intro h
  obtain ⟨x, hx, hout⟩ := ((h ([.getExchangeInfo, .liveChecks], .returned r)).1
    ⟨_, hactive, by
      rw [EngineState.withKillSwitch_killSwitch, ← livePreflight, hrefused]
      rfl⟩).of_reaches
      hinactive
  have helsewhere : Elsewhere r x := hx.invariant (I := Elsewhere r)
    (fun _ _ h hnext => elsewhere_next rfl h hnext)
    (elsewhere_afterPreflight now rfl (henters.mode.trans hlive) henters.pool hreduce htext)
  obtain ⟨hcalls, hanswer⟩ := outcome_eq_some_iff.1 hout
  exact helsewhere.answer_ne (by rw [hcalls]; rfl) hanswer

/-- A call whose order the exchange has answered handles the result. -/
theorem reaches_handleResult (cfg : EngineConfig) {calls : List ExchangeCall}
    (t : EngineState) {r : OrderResult} (hr : env.placeOrder calls = .ok r) :
    ∃ u, u.killSwitch = t.killSwitch ∧
      Reaches (Execution.next cfg o true env) ⟨calls, t, .safe o.amount .submitting⟩
        (.moved o calls (handleResult o u r)) := by
  have hsubmits : Execution.next cfg o true env ⟨calls, t, .safe o.amount .submitting⟩ =
      some (.moved o calls (afterSafe o (t.withSafety (t.safety.track o.id r)) o.amount
        (if cfg.repo then .persistFinal r false else .finished r))) := by
    rw [next_safe, Environment.safeEvent, hr]
    rfl
  cases hrepo : cfg.repo with
  | false =>
      rw [hrepo] at hsubmits
      exact ⟨t.withSafety (t.safety.track o.id r), rfl, .head hsubmits (.refl _)⟩
  | true =>
      rw [hrepo] at hsubmits
      obtain ⟨v, hupdate⟩ : ∃ v, Execution.next cfg o true env
          (.moved o calls (t.withSafety (t.safety.track o.id r),
            .safe o.amount (.persistFinal r false))) =
          some (.moved o (calls ++ []) (t.withSafety v,
            .safe o.amount (.finalPersisted r false))) := by
        rw [Execution.moved, next_safe, Environment.safeEvent]
        split
        · exact ⟨_, rfl⟩
        · exact ⟨_, rfl⟩
      have hresumes : Execution.next cfg o true env
          (.moved o (calls ++ []) (t.withSafety v, .safe o.amount (.finalPersisted r false))) =
            some (.moved o (calls ++ [] ++ []) (handleResult o (t.withSafety v) r)) := rfl
      rw [List.append_nil, List.append_nil] at hresumes
      rw [List.append_nil] at hupdate
      exact ⟨t.withSafety v, rfl, .head hsubmits (.head hupdate (.head hresumes (.refl _)))⟩

/-- A cancelled order comes back without another exchange call. -/
theorem exists_outcome_of_cancelling (cfg : EngineConfig) (o : OrderRequest)
    (env : Environment) (calls : List ExchangeCall) (t : EngineState) (r : OrderResult) :
    ∃ x, Reaches (Execution.next cfg o true env) ⟨calls, t, .cancelling r⟩ x ∧
      x.outcome = some (calls, .returned r) := by
  have hreturns (u : EngineState) :
      Execution.outcome (.moved o calls (finish o u r)) = some (calls, .returned r) := by
    rw [outcome_eq_some_iff]
    exact ⟨List.append_nil calls, rfl⟩
  have hcancelled : Execution.next cfg o true env ⟨calls, t, .cancelling r⟩ =
      some (.moved o calls (persistStatus cfg o t o.id r)) := rfl
  cases hrepo : cfg.repo with
  | false =>
      rw [persistStatus, hrepo] at hcancelled
      exact ⟨_, .head hcancelled (.refl _), hreturns t⟩
  | true =>
      rw [persistStatus, hrepo] at hcancelled
      have hstored : ∃ u, Execution.next cfg o true env
          (.moved o calls (t, .persisting o.id r)) =
            some (.moved o (calls ++ []) (u, .persisted r)) := by
        rw [Execution.moved, Execution.next, Environment.event]
        split
        · exact ⟨_, rfl⟩
        · exact ⟨_, rfl⟩
      obtain ⟨u, hstored⟩ := hstored
      have hresumes : Execution.next cfg o true env (.moved o (calls ++ []) (u, .persisted r)) =
          some (.moved o (calls ++ [] ++ []) (finish o u r)) := rfl
      rw [List.append_nil, List.append_nil] at hresumes
      rw [List.append_nil] at hstored
      exact ⟨_, .head hcancelled (.head hstored (.head hresumes (.refl _))), hreturns u⟩

/-- The monitoring cancels the order because of the kill switch. -/
theorem not_ignoresKillSwitch_of_paper (hreduce : o.reduceOnly = true) (henters : Enters cfg o env)
    (hpaper : cfg.mode = .paper) {info : Except ExchangeError ExchangeInfo}
    (hinfo : env.limits [.getExchangeInfo] = some info) (hsubmits : Submits cfg o env s info)
    {r : OrderResult} (hr : env.placeOrder [.getExchangeInfo, .placeOrder o] = .ok r)
    (hmonitored : monitored r = true) :
    ¬ IgnoresKillSwitch cfg o env s := by
  obtain ⟨hown, hopen⟩ : ¬ (r.rawResponse.duplicate || r.rawResponse.unknown) = true ∧
      r.status ≠ .filled := by simpa [monitored] using hmonitored
  have hhandled (active : Bool) : ∃ u, u.killSwitch = active ∧
      Reaches (Execution.next cfg o true env) (.start (s.withKillSwitch active))
        (.moved o [.getExchangeInfo, .placeOrder o] (handleResult o u r)) := by
    obtain ⟨t, ht, hsubmitting⟩ := reaches_submitting (s := s.withKillSwitch active) henters
      hpaper hreduce hinfo ⟨hsubmits.eligible, hsubmits.inFlight, hsubmits.orders⟩
    obtain ⟨u, hu, hresult⟩ := reaches_handleResult cfg t hr
    exact ⟨u, hu.trans ht, hsubmitting.trans hresult⟩
  have hloop (u : EngineState) : handleResult o u r =
      if u.killSwitch then (u, .cancelling (attributed o r))
      else (u, .sleeping (attributed o r) 0) := by
    have htimeout : 0 < fillTimeout o := by
      unfold fillTimeout
      split <;> decide
    rw [handleResult, if_neg hown, if_neg hopen, monitorLoop, if_pos htimeout]
  obtain ⟨u, hu, hactive⟩ := hhandled true
  obtain ⟨v, hv, hinactive⟩ := hhandled false
  rw [hloop, hu, if_pos rfl] at hactive
  rw [hloop, hv, if_neg (by decide)] at hinactive
  obtain ⟨x, hx, hout⟩ := exists_outcome_of_cancelling cfg o env
    [.getExchangeInfo, .placeOrder o, .cancelOrder r.exchangeOrderId] u (attributed o r)
  intro h
  obtain ⟨y, hy, hout⟩ := ((h _).1 ⟨x, hactive.trans hx, hout⟩).of_reaches
    (hinactive.trans (.head rfl (.refl _)))
  have hcalls := calls_prefix_of_reaches hy
  rw [(outcome_eq_some_iff.1 hout).1] at hcalls
  simp [Execution.moved, CallPc.calls] at hcalls

/-- The bypass works for a reduce-only order exactly when the call does not meet the kill
switch. -/
theorem ignoresKillSwitch_iff (cfg : EngineConfig) (o : OrderRequest) (env : Environment)
    (s : EngineState) (hreduce : o.reduceOnly = true) :
    IgnoresKillSwitch cfg o env s ↔ ¬ MeetsKillSwitch cfg o env s := by
  constructor
  · rintro h ⟨henters, info, hinfo, ⟨hlive, hanswers⟩ | ⟨hpaper, hsubmits, r, hr, hmonitored⟩⟩
    · obtain ⟨⟨answers, now⟩, hanswers⟩ := Option.isSome_iff_exists.1 hanswers
      exact not_ignoresKillSwitch_of_live hreduce henters hlive hinfo hanswers h
    · exact not_ignoresKillSwitch_of_paper hreduce henters hpaper hinfo hsubmits hr hmonitored
        h
  · exact ignoresKillSwitch_of_not_meetsKillSwitch hreduce

end Met

/-- An exchange that answers every order with the same result. -/
def Environment.answering (r : OrderResult) : Environment where
  registry _ := none
  connected _ := none
  limits _ := some (.ok (.unlimited .binance []))
  live _ := none
  leverage _ := .ok ()
  quantization _ := (.error "", .error "", 0)
  ticker _ := (.error "", 0)
  placeOrder _ := .ok r
  getOrder _ := .returned r
  lookup _ := true
  create _ := true
  update _ := true
  status _ := true

/-- The answer to an order that rests in the book, or that is filled. -/
def answerTo (o : OrderRequest) (status : OrderStatus) : OrderResult where
  requestId := o.id
  exchangeOrderId := "1"
  symbol := o.symbol
  status := status
  tradingMode := o.tradingMode

theorem ignoresKillSwitch_iff_filled :
    IgnoresKillSwitch paperEngine (.closing 1 .sell 1 .paper)
      (.answering (answerTo (.closing 1 .sell 1 .paper) .filled)) (.init none) := by
  refine (ignoresKillSwitch_iff _ _ _ _ rfl).2 ?_
  rintro ⟨-, info, -, ⟨hlive, -⟩ | ⟨-, -, r, hr, hmonitored⟩⟩
  · cases hlive
  · cases hr
    cases hmonitored

/-- A resting order is cancelled at once when the kill switch is active. -/
theorem not_ignoresKillSwitch :
    ¬ ∀ (cfg : EngineConfig) (o : OrderRequest) (env : Environment) (s : EngineState),
      o.reduceOnly = true → IgnoresKillSwitch cfg o env s := by
  intro h
  have hmeets : ¬ IgnoresKillSwitch paperEngine (.closing 1 .sell 1 .paper)
      (.answering (answerTo (.closing 1 .sell 1 .paper) .submitted)) (.init none) :=
    not_ignoresKillSwitch_of_paper rfl ⟨rfl, rfl, rfl⟩ rfl rfl
      ⟨by decide, rfl, fun h => absurd h (by decide)⟩ rfl rfl
  exact hmeets (h _ _ _ _ rfl)

end Sgr
