import Sgr.Execution.Engine.Environment

/-!
# Protective orders and the limits of opening orders

The free balance, the leverage of the account and the budget of the verification gate
limit what may be opened. `execute` asks them of every LIVE order, also of a reduce-only
order that matches a position, so a drained account or a spent budget keeps its
positions open. Such an order passes exactly when the account and the gate would let an
order of its size open a position.
-/

open Collection Concurrency

namespace Sgr

/-- The checks of the preflight that limit what an account may open. -/
def openingChecks : List String := ["balance_and_available_capital", "leverage_within_limit"]

/-- The verification gate refuses the order at its price. -/
def RefusedByGate (o : OrderRequest) (gate : Option LiveVerificationState)
    (ticker : Except String Ticker) (now : Timestamp) : Prop :=
  ∃ g price reason, gate = some g ∧ verificationPrice o ticker = .ok price ∧
    (g.checkOrderAllowed (o.quantity * price) (o.metadata.targetLeverage.getD 1)
      o.metadata.gridId now).1 = some reason

/-- A limit for opening orders stands against the next segment. -/
def Execution.Limited (cfg : EngineConfig) (o : OrderRequest) (env : Environment)
    (x : Execution) : Prop :=
  match x.pc with
  | .live checks => ∃ answers now, env.live x.calls = some (answers, now) ∧
      ((∃ c ∈ failures (checks ++ liveChecks cfg.limits o answers), c.name ∈ openingChecks) ∨
        (eligible (checks ++ liveChecks cfg.limits o answers) = true ∧
          o.limitPrice.isSome = true ∧ RefusedByGate o x.state.verification (.error "") now))
  | .verification a =>
      RefusedByGate (o.withAmount a) x.state.verification (env.ticker x.calls).1
        (env.ticker x.calls).2
  | _ => False

/-- A segment of the call rejects the order because of a limit for opening orders. -/
def Trapped (cfg : EngineConfig) (o : OrderRequest) (bypass : Bool) (env : Environment)
    (s : EngineState) : Prop :=
  ∃ x y r, Reaches (Execution.next cfg o bypass env) (.start s) x ∧
    x.next cfg o bypass env = some y ∧ y.pc = .rejected r ∧ x.Limited cfg o env

/-- A reduce-only order that matches a position on a LIVE exchange which answers. -/
structure Protective (cfg : EngineConfig) (o : OrderRequest) (env : Environment) where
  live : cfg.mode = .live
  enters : Enters cfg o env
  reduceOnly : o.reduceOnly = true
  info : ExchangeInfo
  limits : env.limits [.getExchangeInfo] = some (.ok info)
  listed : o.symbol.ccxtSymbol ∈ info.symbols
  answers : LiveAnswers
  now : Timestamp
  answered : env.live [.getExchangeInfo, .liveChecks] = some (answers, now)
  free : ℚ
  freeBalance : answers.freeBalance = .ok free
  positions : List Position
  positionsAnswer : answers.positions = .ok positions
  position : Position
  mem : position ∈ positions
  symbol : position.symbol = o.symbol
  side : position.side.closeSide = o.side
  quantity : o.quantity ≤ position.quantity

section Early

variable {cfg : EngineConfig} {o : OrderRequest} {bypass : Bool} {env : Environment}
  {s : EngineState}

theorem early_eq_false_of_continues {r : OrderResult} {t : EngineState} {q : CallPc}
    (h : Continues o s r t q) : q.early = false := by
  cases h <;> rfl

theorem early_afterSafe (a : Amount) (p : SafePc) : (afterSafe o s a p).2.early = false := by
  refine afterSafe_cases o s (φ := fun c => c.2.early = false) ?_ ?_
  · intro r t q h
    exact early_eq_false_of_continues h
  · exact fun _ => rfl

theorem early_executeInternal (a : Amount) :
    (executeInternal cfg o s a).2.early = false := by
  unfold executeInternal
  split
  · exact early_afterSafe a _
  · rfl

theorem early_verified (a : Amount) (ticker : Except String Ticker) (now : Timestamp) :
    (verified cfg o s a ticker now).2.early = false := by
  unfold verified
  dsimp only
  split
  · rfl
  · exact early_executeInternal a

/-- A call does not come back to the gates. -/
theorem early_eq_false_of_next {x y : Execution} (h : x.pc.early = false)
    (hnext : x.next cfg o bypass env = some y) : y.pc.early = false := by
  obtain ⟨⟨t, q⟩, hsegment, rfl⟩ := Option.map_eq_some_iff.1 hnext
  obtain ⟨calls, s, p⟩ := x
  cases callStep_of_callSegment hsegment with
  | gate hearly _ _ =>
      rw [h] at hearly
      cases hearly
  | enter a _ _ => exact early_executeInternal a
  | safe _ => exact early_afterSafe _ _
  | goesOn _ hcontinues => exact early_eq_false_of_continues hcontinues
  | polls => rfl
  | updates hcontinues => exact early_eq_false_of_continues hcontinues
  | aborts => rfl
  | stores _ => rfl

/-- Past the gates no limit for opening orders stands against the call. -/
theorem not_limited_of_reaches {x y : Execution} (h : x.pc.early = false)
    (hreaches : Reaches (Execution.next cfg o bypass env) x y) : ¬ y.Limited cfg o env := by
  have hearly : y.pc.early = false := hreaches.invariant
    (I := fun x => x.pc.early = false) (fun _ _ h hnext => early_eq_false_of_next h hnext) h
  obtain ⟨calls, t, p⟩ := y
  cases p with
  | live _ | verification _ => cases hearly
  | _ => exact id

end Early

namespace Protective

variable {cfg : EngineConfig} {o : OrderRequest} {bypass : Bool} {env : Environment}
  {s : EngineState}

/-- The price that the gate asks for, and when it asks. -/
def ticker (h : Protective cfg o env) : Except String Ticker × Timestamp :=
  if o.limitPrice.isSome then (.error "", h.now)
  else env.ticker [.getExchangeInfo, .liveChecks, .getTicker]

/-- The account and the gate would let an order of this size open a position. -/
structure LimitsAllow (h : Protective cfg o env) (s : EngineState) : Prop where
  balance : match o.limitPrice with
    | some price => o.quantity * price ≤ h.free
    | none => 0 < h.free
  leverage : ∀ p, existingPosition o h.positions = some p → p.leverage ≤ cfg.limits.maxLeverage
  gate : eligible (livePreflight cfg o s.killSwitch (.ok h.info) h.answers) = true →
    ∀ g price, s.verification = some g → verificationPrice o h.ticker.1 = .ok price →
      WithinLimits g (o.quantity * price) (o.metadata.targetLeverage.getD 1)
        o.metadata.gridId h.ticker.2

/-- Of the checks of a LIVE order only two limit what may be opened. -/
theorem mem_livePreflight_of_opening {active : Bool} {info : Except ExchangeError ExchangeInfo}
    {answers : LiveAnswers} {c : PreflightCheckResult}
    (hc : c ∈ livePreflight cfg o active info answers) (hname : c.name ∈ openingChecks) :
    c = checkBalanceAndCapital o answers.freeBalance ∨
      c = checkLeverage cfg.limits o answers.positions := by
  simp only [livePreflight, earlyPreflight, staticChecks, notSupportedChecks, liveChecks,
    List.map_cons, List.map_nil, List.mem_append, List.mem_cons, List.not_mem_nil,
    or_false] at hc
  rcases hc with ((((rfl | rfl) | (rfl | rfl)) | rfl) | rfl) |
    (rfl | rfl | rfl | hbalance | hleverage | rfl | rfl | rfl)
  all_goals first
    | exact .inl hbalance
    | exact .inr hleverage
    | simp [openingChecks, checkReduceOnlyConsistencyStatic, checkKillSwitchInactive] at hname

theorem checkBalanceAndCapital_passed_iff {free : ℚ} :
    (checkBalanceAndCapital o (.ok free)).passed = true ↔
      match o.limitPrice with
      | some price => o.quantity * price ≤ free
      | none => 0 < free := by
  unfold checkBalanceAndCapital
  dsimp only
  cases o.limitPrice with
  | none =>
      dsimp only
      split
      · rename_i h
        simp [h]
      · rename_i h
        simpa using h
  | some price =>
      dsimp only
      split
      · rename_i h
        simp [h]
      · rename_i h
        simpa using h

theorem checkLeverage_passed_iff {limits : RiskLimitsConfig} {positions : List Position} :
    (checkLeverage limits o (.ok positions)).passed = true ↔
      ∀ p, existingPosition o positions = some p → p.leverage ≤ limits.maxLeverage := by
  unfold checkLeverage
  dsimp only
  cases existingPosition o positions with
  | none => simp
  | some p =>
      dsimp only
      split
      · rename_i h
        simp [h]
      · rename_i h
        simpa using h

/-- An opening limit of the preflight fails exactly when the account is short of it. -/
theorem exists_failure_iff (h : Protective cfg o env) (active : Bool) :
    (∃ c ∈ failures (livePreflight cfg o active (.ok h.info) h.answers),
        c.name ∈ openingChecks) ↔
      (checkBalanceAndCapital o (.ok h.free)).passed = false ∨
        (checkLeverage cfg.limits o (.ok h.positions)).passed = false := by
  rw [← h.freeBalance, ← h.positionsAnswer]
  constructor
  · rintro ⟨c, hc, hname⟩
    obtain ⟨hmem, hfails⟩ := List.mem_filter.1 hc
    rw [Bool.and_eq_true, Bool.not_eq_true'] at hfails
    rcases mem_livePreflight_of_opening hmem hname with rfl | rfl
    · exact .inl hfails.2
    · exact .inr hfails.2
  · have hmem {c : PreflightCheckResult} (hc : c ∈ liveChecks cfg.limits o h.answers)
        (hsupported : c.supported = true) (hfails : c.passed = false) :
        c ∈ failures (livePreflight cfg o active (.ok h.info) h.answers) := by
      rw [failures, List.mem_filter, hsupported, hfails]
      exact ⟨List.mem_append_right _ hc, rfl⟩
    rintro (hfails | hfails)
    · exact ⟨_, hmem (by simp [liveChecks]) (supported_checkBalanceAndCapital o _) hfails,
        by simp [openingChecks]⟩
    · exact ⟨_, hmem (by simp [liveChecks]) (supported_checkLeverage _ o _) hfails,
        by simp [openingChecks]⟩

/-- The call awaits the answers to the LIVE checks. -/
def checked (h : Protective cfg o env) (s : EngineState) : Execution :=
  ⟨[.getExchangeInfo, .liveChecks], s, .live (earlyPreflight o s.killSwitch (.ok h.info))⟩

/-- The call awaits a price for the verification gate. -/
def priced (o : OrderRequest) (s : EngineState) : Execution :=
  ⟨[.getExchangeInfo, .liveChecks, .getTicker], s, .verification o.amount⟩

theorem reaches_checked (h : Protective cfg o env)
    (hkill : s.killSwitch = true → bypass = true) :
    Reaches (Execution.next cfg o bypass env) (.start s) (h.checked s) :=
  reaches_live h.enters hkill h.live h.limits

theorem next_checked (h : Protective cfg o env) :
    (h.checked s).next cfg o bypass env =
      some (.moved o [.getExchangeInfo, .liveChecks]
        (afterPreflight cfg o s (livePreflight cfg o s.killSwitch (.ok h.info) h.answers)
          h.now)) := next_live h.answered

/-- The preflight passes a matching order on to the verification gate. -/
theorem afterPreflight_eq_verify (h : Protective cfg o env)
    {checks : List PreflightCheckResult} (heligible : eligible checks = true)
    (now : Timestamp) :
    afterPreflight cfg o s checks now =
      if s.verification.isNone || o.limitPrice.isSome then
        verified cfg o s o.amount (.error "") now
      else (s, .verification o.amount) := by
  have hmode : o.tradingMode = .live := h.enters.mode.trans h.live
  unfold afterPreflight verify
  rw [heligible, if_neg (by decide), if_pos h.reduceOnly, if_neg (not_not.2 hmode)]
  rfl

/-- The limits for opening orders are asked in at most two places. -/
theorem eq_of_limited (h : Protective cfg o env) {x : Execution}
    (hx : Reaches (Execution.next cfg o bypass env) (.start s) x)
    (hlimited : x.Limited cfg o env) :
    (s.killSwitch = true → bypass = true) ∧
      (x = h.checked s ∨
        (x = priced o s ∧ o.limitPrice = none ∧
          eligible (livePreflight cfg o s.killSwitch (.ok h.info) h.answers) = true)) := by
  obtain rfl | ⟨y, hy, hx⟩ := hx.eq_or_of_next
  · exact absurd hlimited id
  by_cases hkill : s.killSwitch = true → bypass = true
  · rw [next_start h.enters hkill] at hy
    cases hy
    obtain rfl | ⟨y, hy, hx⟩ := hx.eq_or_of_next
    · exact absurd hlimited id
    rw [next_limits_of_live h.live h.limits] at hy
    cases hy
    refine ⟨hkill, ?_⟩
    obtain rfl | ⟨y, hy, hx⟩ := hx.eq_or_of_next
    · exact .inl rfl
    rw [← checked, next_checked] at hy
    cases hy
    cases heligible : eligible (livePreflight cfg o s.killSwitch (.ok h.info) h.answers) with
    | false =>
        rw [afterPreflight, heligible] at hx
        exact absurd hlimited (not_limited_of_reaches rfl hx)
    | true =>
        rw [h.afterPreflight_eq_verify heligible] at hx
        split at hx
        · exact absurd hlimited (not_limited_of_reaches (early_verified _ _ _) hx)
        · rename_i hprice
          obtain rfl | ⟨y, hy, hx⟩ := hx.eq_or_of_next
          · refine .inr ⟨rfl, ?_, rfl⟩
            simpa using (Bool.or_eq_false_iff.1 (Bool.eq_false_of_not_eq_true hprice)).2
          · cases hy
            exact absurd hlimited (not_limited_of_reaches (early_verified _ _ _) hx)
  · rw [Classical.not_imp] at hkill
    obtain ⟨hactive, hbypass⟩ := hkill
    rw [Bool.not_eq_true] at hbypass
    subst hbypass
    rw [next_start_of_killSwitch h.enters hactive] at hy
    cases hy
    exact absurd hlimited (not_limited_of_reaches rfl hx)

theorem refusedByGate_iff (h : Protective cfg o env) (gate : Option LiveVerificationState) :
    RefusedByGate o gate h.ticker.1 h.ticker.2 ↔
      ¬ ∀ g price, gate = some g → verificationPrice o h.ticker.1 = .ok price →
        WithinLimits g (o.quantity * price) (o.metadata.targetLeverage.getD 1)
          o.metadata.gridId h.ticker.2 := by
  constructor
  · rintro ⟨g, price, reason, hg, hprice, hreason⟩ hallows
    rw [LiveVerificationState.checkOrderAllowed_eq_none_iff.2 (hallows g price hg hprice)]
      at hreason
    cases hreason
  · intro hrefuses
    push Not at hrefuses
    obtain ⟨g, price, hg, hprice, hlimits⟩ := hrefuses
    rw [← LiveVerificationState.checkOrderAllowed_eq_none_iff] at hlimits
    obtain ⟨reason, hreason⟩ := Option.ne_none_iff_exists'.1 hlimits
    exact ⟨g, price, reason, hg, hprice, hreason⟩

theorem not_limitsAllow_of_limited_checked (h : Protective cfg o env)
    (hlimited : (h.checked s).Limited cfg o env) : ¬ h.LimitsAllow s := by
  intro hallow
  obtain ⟨answers, now, hanswered, hcause⟩ := hlimited
  rw [checked, h.answered] at hanswered
  cases hanswered
  rcases hcause with hfails | ⟨heligible, hprice, hrefused⟩
  · rcases (h.exists_failure_iff s.killSwitch).1 hfails with hbalance | hleverage
    · rw [checkBalanceAndCapital_passed_iff.2 hallow.balance] at hbalance
      cases hbalance
    · rw [checkLeverage_passed_iff.2 hallow.leverage] at hleverage
      cases hleverage
  · have hticker : h.ticker = (.error "", h.now) := if_pos hprice
    have hgate := h.refusedByGate_iff s.verification
    rw [hticker] at hgate
    refine hgate.1 hrefused ?_
    have := hallow.gate heligible
    rwa [hticker] at this

theorem not_limitsAllow_of_limited_priced (h : Protective cfg o env)
    (hprice : o.limitPrice = none)
    (heligible : eligible (livePreflight cfg o s.killSwitch (.ok h.info) h.answers) = true)
    (hlimited : (priced o s).Limited cfg o env) : ¬ h.LimitsAllow s := by
  intro hallow
  have hticker : h.ticker = env.ticker [.getExchangeInfo, .liveChecks, .getTicker] := by
    rw [ticker, hprice]
    rfl
  have hgate := h.refusedByGate_iff s.verification
  rw [hticker] at hgate
  refine hgate.1 hlimited ?_
  have := hallow.gate heligible
  rwa [hticker] at this

/-- An order that its checks refuse for the account is trapped. -/
theorem trapped_of_failure (h : Protective cfg o env)
    (hkill : s.killSwitch = true → bypass = true)
    (hfails : ∃ c ∈ failures (livePreflight cfg o s.killSwitch (.ok h.info) h.answers),
      c.name ∈ openingChecks) : Trapped cfg o bypass env s := by
  have heligible : eligible (livePreflight cfg o s.killSwitch (.ok h.info) h.answers) =
      false := by
    rw [← Bool.not_eq_true, eligible_iff_failures_eq_nil]
    obtain ⟨c, hc, -⟩ := hfails
    exact List.ne_nil_of_mem hc
  refine ⟨h.checked s, _, rejectedResult cfg o ("Preflight validation failed: " ++
    rejectionSummary (livePreflight cfg o s.killSwitch (.ok h.info) h.answers)),
    h.reaches_checked hkill, h.next_checked, ?_, h.answers, h.now, h.answered, .inl hfails⟩
  rw [afterPreflight, heligible]
  rfl

theorem verified_of_refusedByGate (cfg : EngineConfig) {ticker : Except String Ticker}
    {now : Timestamp} (h : RefusedByGate o s.verification ticker now) :
    ∃ t r, verified cfg o s o.amount ticker now = (t, .rejected r) := by
  obtain ⟨g, price, reason, hg, hprice, hreason⟩ := h
  have hcheck : (checkLiveVerificationAllowed o s.verification ticker now).1 =
      some reason := by
    unfold checkLiveVerificationAllowed
    rw [hg]
    dsimp only
    rw [hprice]
    exact hreason
  unfold verified
  dsimp only
  rw [show o.withAmount o.amount = o from rfl, hcheck]
  exact ⟨_, _, rfl⟩

/-- An order that the gate refuses is trapped. -/
theorem trapped_of_refusedByGate (h : Protective cfg o env)
    (hkill : s.killSwitch = true → bypass = true)
    (heligible : eligible (livePreflight cfg o s.killSwitch (.ok h.info) h.answers) = true)
    (hrefused : RefusedByGate o s.verification h.ticker.1 h.ticker.2) :
    Trapped cfg o bypass env s := by
  obtain ⟨t, r, hverified⟩ := verified_of_refusedByGate cfg hrefused
  have hnext : (h.checked s).next cfg o bypass env = some _ := h.next_checked
  rw [h.afterPreflight_eq_verify heligible] at hnext
  obtain ⟨g, price, reason, hg, -⟩ := id hrefused
  cases hlimit : o.limitPrice with
  | some limitPrice =>
      have hticker : h.ticker = (.error "", h.now) := if_pos (by rw [hlimit]; rfl)
      rw [hlimit, Option.isSome_some, Bool.or_true, if_pos rfl] at hnext
      rw [hticker] at hverified hrefused
      refine ⟨h.checked s, _, r, h.reaches_checked hkill, hnext, ?_, h.answers, h.now,
        h.answered, .inr ⟨heligible, by rw [hlimit]; rfl, hrefused⟩⟩
      exact congrArg Prod.snd hverified
  | none =>
      have hticker : h.ticker = env.ticker [.getExchangeInfo, .liveChecks, .getTicker] :=
        if_neg (by rw [hlimit]; decide)
      rw [hlimit, hg, Option.isSome_none, Option.isNone_some, Bool.or_false,
        if_neg (by decide)] at hnext
      rw [hticker] at hverified hrefused
      refine ⟨priced o s, _, r, (h.reaches_checked hkill).trans (.head hnext (.refl _)), rfl,
        ?_, hrefused⟩
      exact congrArg Prod.snd hverified

/-- A protective order is trapped exactly when it comes to the limits and they would not
let it open a position. -/
theorem trapped_iff (h : Protective cfg o env) :
    Trapped cfg o bypass env s ↔
      (s.killSwitch = true → bypass = true) ∧ ¬ h.LimitsAllow s := by
  constructor
  · rintro ⟨x, y, r, hx, -, -, hlimited⟩
    obtain ⟨hkill, rfl | ⟨rfl, hprice, heligible⟩⟩ := h.eq_of_limited hx hlimited
    · exact ⟨hkill, h.not_limitsAllow_of_limited_checked hlimited⟩
    · exact ⟨hkill, h.not_limitsAllow_of_limited_priced hprice heligible hlimited⟩
  · rintro ⟨hkill, hnot⟩
    by_cases hfails : ∃ c ∈ failures (livePreflight cfg o s.killSwitch (.ok h.info) h.answers),
        c.name ∈ openingChecks
    · exact h.trapped_of_failure hkill hfails
    · rw [h.exists_failure_iff, not_or, Bool.not_eq_false, Bool.not_eq_false,
        checkBalanceAndCapital_passed_iff, checkLeverage_passed_iff] at hfails
      by_contra htrapped
      refine hnot ⟨hfails.1, hfails.2, fun heligible => ?_⟩
      by_contra hgate
      exact htrapped (h.trapped_of_refusedByGate hkill heligible ((h.refusedByGate_iff _).2 hgate))

/-- A protective order is never trapped exactly when, should it come to the limits, they
would let it open a position. -/
theorem not_trapped_iff (h : Protective cfg o env) :
    ¬ Trapped cfg o bypass env s ↔
      ((s.killSwitch = true → bypass = true) → h.LimitsAllow s) := by
  rw [h.trapped_iff, not_and, not_not]

end Protective

/-- The closing order of a registered strategy. -/
def liveClosing : OrderRequest :=
  { OrderRequest.closing 1 .sell 1 .live with metadata := { strategy := some "grid" } }

/-- The long position that the order closes. -/
def livePosition : Position where
  id := 1
  symbol := btcUsdt
  side := .long
  quantity := 1
  entryPrice := 10
  currentPrice := 10
  openedAt := 0
  strategyName := "grid"
  tradingMode := .live

/-- A LIVE exchange with this position and a free balance. -/
def Environment.account (free : ℚ) : Environment where
  registry _ := some ⟨false, true, true, true⟩
  connected _ := some true
  limits _ := some (.ok (.unlimited .binance ["BTC/USDT"]))
  live _ := some (⟨.ok 0, .ok ⟨true, "open"⟩, .ok (.unlimited .binance ["BTC/USDT"]), .ok free,
    .ok [livePosition], .ok false, .ok [livePosition]⟩, 0)
  leverage _ := .ok ()
  quantization _ := (.error "", .error "", 0)
  ticker _ := (.ok ⟨10, 11⟩, 0)
  placeOrder _ := .error ""
  getOrder _ := .failed
  lookup _ := true
  create _ := true
  update _ := true
  status _ := true

/-- The order matches the position whatever the balance is. -/
def protective (free : ℚ) : Protective liveEngine liveClosing (.account free) where
  live := rfl
  enters := by
    refine ⟨rfl, ?_, rfl⟩
    show (checkLiveTradingAllowed liveClosing (fun _ => some ⟨false, true, true, true⟩)
      fun _ => some true).allowed = true
    decide
  reduceOnly := rfl
  info := .unlimited .binance ["BTC/USDT"]
  limits := rfl
  listed := by decide
  answers := _
  now := 0
  answered := rfl
  free := free
  freeBalance := rfl
  positions := [livePosition]
  positionsAnswer := rfl
  position := livePosition
  mem := List.mem_singleton.2 rfl
  symbol := rfl
  side := rfl
  quantity := le_refl 1

theorem not_trapped_iff_funded :
    ¬ Trapped liveEngine liveClosing true (.account 1) (.init (some verificationGate)) := by
  refine (protective 1).not_trapped_iff.2 fun _ =>
    ⟨(by decide : (0 : ℚ) < 1), ?_, fun _ g price hg hprice => ?_⟩
  · rintro p hp
    cases hp
    decide
  · cases hg
    cases hprice
    exact ⟨rfl, by decide, by decide, by decide, by decide, by rintro k ⟨⟩, by decide,
      by decide +kernel, by decide +kernel⟩

/-- A drained account cannot close its position. -/
theorem not_forall_not_trapped :
    ¬ ∀ (cfg : EngineConfig) (o : OrderRequest) (bypass : Bool) (env : Environment)
      (s : EngineState), Protective cfg o env → ¬ Trapped cfg o bypass env s := by
  intro h
  refine h _ _ true _ (.init (some verificationGate)) (protective 0)
    ((protective 0).trapped_iff.2 ⟨fun _ => rfl, fun hallow => ?_⟩)
  exact absurd hallow.balance (lt_irrefl (0 : ℚ))

end Sgr
