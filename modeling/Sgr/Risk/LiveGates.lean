import Mathlib.Algebra.Order.Field.Rat
import Mathlib.Data.Finset.Card
import Sgr.Exchange.Answers

/-!
# The gates of LIVE orders

`check_live_trading_allowed` of `sgr/risk/live_trading_gate.py` and the
`LiveVerificationGate` of `sgr/risk/live_verification_profile.py`. Both let every
PAPER order pass.
-/

namespace Sgr

/-- The fields of a `StrategyRegistry` entry that the gate reads. -/
structure StrategyEntry where
  isOperatorOverride : Bool
  liveApproved : Bool
  isValidated : Bool
  isActive : Bool
  deriving DecidableEq, Repr

/-- `LiveTradingGateResult`; the reason is that of a refusal. -/
structure LiveTradingGateResult where
  allowed : Bool
  reason : Option String := none
  deriving DecidableEq, Repr

/-- A refusal. -/
def LiveTradingGateResult.blocked (reason : String) : LiveTradingGateResult :=
  ⟨false, some ("Live trading blocked: " ++ reason)⟩

/-- `check_live_trading_allowed` with a registry, a kill switch and a pool, as the
execution engine calls it. `connected` gives, for an adapter of the pool, its
connection flag. -/
def checkLiveTradingAllowed (o : OrderRequest) (registry : String → Option StrategyEntry)
    (connected : ExchangeID → Option Bool) : LiveTradingGateResult :=
  if o.tradingMode ≠ .live then ⟨true, none⟩
  else
    match o.metadata.strategy.filter fun name => name ≠ "" && name ≠ "unknown" with
    | none => .blocked "order has no attributable strategy_name"
    | some name =>
        match registry name with
        | none => .blocked ("strategy '" ++ name ++ "' not registered")
        | some entry =>
            if entry.isOperatorOverride then
              .blocked ("strategy '" ++ name ++ "' is active only via manual " ++
                "paper-trading override (STRATEGY_FORCE_ACTIVATE), not genuine " ++
                "validation - operator overrides can NEVER authorize live trading")
            else if !entry.liveApproved then
              .blocked ("strategy '" ++ name ++
                "' has no live_approved validation status")
            else if !entry.isValidated || !entry.isActive then
              .blocked ("strategy '" ++ name ++ "' is not both is_validated and is_active")
            else
              match connected o.symbol.exchange with
              | none =>
                  .blocked ("no connected LIVE exchange adapter for " ++
                    o.symbol.exchange.value)
              | some false =>
                  .blocked ("LIVE exchange adapter for " ++ o.symbol.exchange.value ++
                    " is not connected")
              | some true => ⟨true, none⟩

/-- The gate refuses no PAPER order. -/
theorem checkLiveTradingAllowed_of_paper {o : OrderRequest}
    (registry : String → Option StrategyEntry) (connected : ExchangeID → Option Bool)
    (h : o.tradingMode ≠ .live) :
    (checkLiveTradingAllowed o registry connected).allowed = true := by
  rw [checkLiveTradingAllowed, if_pos h]

/-- `LiveVerificationProfile`, with what `__post_init__` checks as fields. -/
structure LiveVerificationProfile where
  maxTotalBudgetUsd : ℚ
  maxLossUsd : ℚ
  maxDailyLossUsd : ℚ
  maxConcurrentGrids : ℕ
  maxOrders : ℕ
  maxExposureUsd : ℚ
  maxLeverage : ℚ
  maxPositionSizeUsd : ℚ
  maxDurationMinutes : ℕ
  startedAt : Timestamp
  approvedBy : String
  maxTotalBudgetUsd_pos : 0 < maxTotalBudgetUsd
  maxLossUsd_pos : 0 < maxLossUsd
  maxDailyLossUsd_pos : 0 < maxDailyLossUsd
  maxExposureUsd_pos : 0 < maxExposureUsd
  maxPositionSizeUsd_pos : 0 < maxPositionSizeUsd
  maxConcurrentGrids_pos : 0 < maxConcurrentGrids
  maxOrders_pos : 0 < maxOrders
  maxDurationMinutes_pos : 0 < maxDurationMinutes
  one_le_maxLeverage : 1 ≤ maxLeverage
  approvedBy_ne_empty : approvedBy ≠ ""

/-- `LiveVerificationProfile.expires_at`. -/
def LiveVerificationProfile.expiresAt (p : LiveVerificationProfile) : Timestamp :=
  p.startedAt + 60 * p.maxDurationMinutes

/-- `LiveVerificationState`. -/
structure LiveVerificationState where
  profile : LiveVerificationProfile
  cumulativeRealizedLossUsd : ℚ := 0
  dailyRealizedLossUsd : ℚ := 0
  dailyLossResetAt : Timestamp
  ordersSubmitted : ℕ := 0
  activeGridIds : Finset UUID := ∅
  deactivationReason : Option String := none

namespace LiveVerificationState

/-- `deactivate`: the first reason stays. -/
def deactivate (g : LiveVerificationState) (reason : String) : LiveVerificationState :=
  { g with deactivationReason := g.deactivationReason.or (some reason) }

/-- `_maybe_reset_daily_loss`. -/
def maybeResetDailyLoss (g : LiveVerificationState) (now : Timestamp) :
    LiveVerificationState :=
  if 24 * 60 * 60 ≤ now - g.dailyLossResetAt then
    { g with dailyRealizedLossUsd := 0, dailyLossResetAt := now }
  else g

/-- The limits that `check_order_allowed` compares with, after the checks that can
deactivate the gate; `none` allows the order. -/
def orderRefusal (g : LiveVerificationState) (notional leverage : ℚ)
    (gridId : Option UUID) : Option String :=
  let p := g.profile
  if p.maxOrders ≤ g.ordersSubmitted then
    some ("max_orders (" ++ toString p.maxOrders ++ ") erreicht")
  else if gridId.any fun k =>
      k ∉ g.activeGridIds ∧ p.maxConcurrentGrids ≤ g.activeGridIds.card then
    some ("max_concurrent_grids (" ++ toString p.maxConcurrentGrids ++ ") erreicht")
  else if p.maxLeverage < leverage then
    some ("Leverage " ++ toString leverage ++ "x ueberschreitet max_leverage " ++
      toString p.maxLeverage ++ "x")
  else if p.maxPositionSizeUsd < notional then
    some ("Notional " ++ toString notional ++
      " ueberschreitet max_position_size_usd " ++ toString p.maxPositionSizeUsd)
  else if p.maxTotalBudgetUsd < notional then
    some ("Notional " ++ toString notional ++
      " ueberschreitet max_total_budget_usd " ++ toString p.maxTotalBudgetUsd)
  else none

/-- `check_order_allowed`: the verdict (`none` allows) and the state of the gate,
which a check can deactivate or reset for the day. -/
def checkOrderAllowed (g : LiveVerificationState) (notional leverage : ℚ)
    (gridId : Option UUID) (now : Timestamp) : Option String × LiveVerificationState :=
  match g.deactivationReason with
  | some reason =>
      (some ("Live-Verifikationsprofil bereits deaktiviert: " ++ reason), g)
  | none =>
      if g.profile.expiresAt ≤ now then
        (some "Live-Verifikationsprofil Zeitfenster abgelaufen",
          g.deactivate "Zeitfenster abgelaufen")
      else if g.profile.maxLossUsd ≤ g.cumulativeRealizedLossUsd then
        (some "Maximal zulaessiger Gesamtverlust erreicht",
          g.deactivate "max_loss_usd erreicht")
      else
        let g' := g.maybeResetDailyLoss now
        if g'.profile.maxDailyLossUsd ≤ g'.dailyRealizedLossUsd then
          (some "Maximal zulaessiger Tagesverlust erreicht",
            g'.deactivate "max_daily_loss_usd erreicht")
        else (g'.orderRefusal notional leverage gridId, g')

/-- `record_order_submitted`. -/
def recordOrderSubmitted (g : LiveVerificationState) (gridId : Option UUID) :
    LiveVerificationState :=
  { g with
    ordersSubmitted := g.ordersSubmitted + 1
    activeGridIds := match gridId with
      | some k => insert k g.activeGridIds
      | none => g.activeGridIds }

/-- `record_realized_loss`: gains are ignored. -/
def recordRealizedLoss (g : LiveVerificationState) (loss : ℚ) : LiveVerificationState :=
  if loss ≤ 0 then g
  else
    { g with
      cumulativeRealizedLossUsd := g.cumulativeRealizedLossUsd + loss
      dailyRealizedLossUsd := g.dailyRealizedLossUsd + loss }

end LiveVerificationState

/-- What `check_live_verification_allowed` knows of the price: the limit price, or
the answer of the ticker request of a market order. -/
def verificationPrice (o : OrderRequest) (ticker : Except String Ticker) :
    Except String ℚ :=
  match o.limitPrice with
  | some price => .ok price
  | none => ticker.map fun t => t.price o.side

/-- `check_live_verification_allowed` for a LIVE order once the price is known. -/
def checkLiveVerificationAllowed (o : OrderRequest) (gate : Option LiveVerificationState)
    (ticker : Except String Ticker) (now : Timestamp) :
    Option String × Option LiveVerificationState :=
  match gate with
  | none =>
      (some ("Live trading blocked: kein LiveVerificationGate konfiguriert " ++
        "(fail-closed - kein Operator-Budget hinterlegt)"), none)
  | some g =>
      match verificationPrice o ticker with
      | .error e =>
          (some ("Live trading blocked: Preis fuer LiveVerificationGate nicht abrufbar (" ++
            e ++ ")"), some g)
      | .ok price =>
          let r := g.checkOrderAllowed (o.quantity * price)
            (o.metadata.targetLeverage.getD 1) o.metadata.gridId now
          (r.1, some r.2)

/-- The text starts with another letter than the refusals of the preflight. -/
def StartsOtherwise (text : String) : Prop := ∃ c l, text.toList = c :: l ∧ c ≠ 'P'

namespace StartsOtherwise

theorem ofList {c : Char} (l : List Char) (h : c ≠ 'P') :
    StartsOtherwise (String.ofList (c :: l)) := ⟨c, l, String.toList_ofList, h⟩

theorem append {text : String} (text' : String) (h : StartsOtherwise text) :
    StartsOtherwise (text ++ text') := by
  obtain ⟨c, l, htext, hc⟩ := h
  refine ⟨c, l ++ text'.toList, ?_, hc⟩
  rw [String.toList_append, htext, List.cons_append]

theorem head?_ne {text : String} (h : StartsOtherwise text) : text.toList.head? ≠ some 'P' := by
  obtain ⟨c, l, htext, hc⟩ := h
  rw [htext, List.head?_cons]
  exact fun heq => hc (Option.some.inj heq)

end StartsOtherwise

namespace LiveVerificationState

/-- No refusal starts like those of the preflight. -/
theorem startsOtherwise_orderRefusal {g : LiveVerificationState} {notional leverage : ℚ}
    {gridId : Option UUID} {reason : String}
    (h : g.orderRefusal notional leverage gridId = some reason) : StartsOtherwise reason := by
  unfold orderRefusal at h
  dsimp only at h
  split at h
  · cases h
    exact .append _ (.append _ (.ofList _ (by decide)))
  · split at h
    · cases h
      exact .append _ (.append _ (.ofList _ (by decide)))
    · split at h
      · cases h
        exact .append _ (.append _ (.append _ (.append _ (.ofList _ (by decide)))))
      · split at h
        · cases h
          exact .append _ (.append _ (.append _ (.ofList _ (by decide))))
        · split at h
          · cases h
            exact .append _ (.append _ (.append _ (.ofList _ (by decide))))
          · cases h

theorem startsOtherwise_checkOrderAllowed {g : LiveVerificationState} {notional leverage : ℚ}
    {gridId : Option UUID} {now : Timestamp} {reason : String}
    (h : (g.checkOrderAllowed notional leverage gridId now).1 = some reason) :
    StartsOtherwise reason := by
  unfold checkOrderAllowed at h
  split at h
  · cases h
    exact .append _ (.ofList _ (by decide))
  · split at h
    · cases h
      exact .ofList _ (by decide)
    · split at h
      · cases h
        exact .ofList _ (by decide)
      · dsimp only at h
        split at h
        · cases h
          exact .ofList _ (by decide)
        · exact startsOtherwise_orderRefusal h

end LiveVerificationState

theorem head?_checkLiveVerificationAllowed_ne {o : OrderRequest}
    {gate : Option LiveVerificationState} {ticker : Except String Ticker} {now : Timestamp}
    {reason : String}
    (h : (checkLiveVerificationAllowed o gate ticker now).1 = some reason) :
    reason.toList.head? ≠ some 'P' := by
  refine StartsOtherwise.head?_ne ?_
  unfold checkLiveVerificationAllowed at h
  split at h
  · cases h
    exact .append _ (.ofList _ (by decide))
  · split at h
    · cases h
      exact .append _ (.append _ (.ofList _ (by decide)))
    · exact LiveVerificationState.startsOtherwise_checkOrderAllowed h

/-- The limits of the verification gate leave room for an order. -/
structure WithinLimits (g : LiveVerificationState) (notional leverage : ℚ)
    (gridId : Option UUID) (now : Timestamp) : Prop where
  active : g.deactivationReason = none
  window : now < g.profile.expiresAt
  loss : g.cumulativeRealizedLossUsd < g.profile.maxLossUsd
  dailyLoss : (g.maybeResetDailyLoss now).dailyRealizedLossUsd < g.profile.maxDailyLossUsd
  orders : g.ordersSubmitted < g.profile.maxOrders
  grids : ∀ k, gridId = some k →
    k ∈ g.activeGridIds ∨ g.activeGridIds.card < g.profile.maxConcurrentGrids
  leverage : leverage ≤ g.profile.maxLeverage
  positionSize : notional ≤ g.profile.maxPositionSizeUsd
  budget : notional ≤ g.profile.maxTotalBudgetUsd

namespace LiveVerificationState

variable {g : LiveVerificationState} {notional leverage : ℚ} {gridId : Option UUID}
  {now : Timestamp}

/-- A new day changes nothing but the loss of the day. -/
theorem maybeResetDailyLoss_eq (g : LiveVerificationState) (now : Timestamp) :
    ∃ loss resetAt, g.maybeResetDailyLoss now =
      { g with dailyRealizedLossUsd := loss, dailyLossResetAt := resetAt } := by
  unfold maybeResetDailyLoss
  split
  · exact ⟨_, _, rfl⟩
  · exact ⟨_, _, rfl⟩

theorem orderRefusal_eq_none_iff :
    g.orderRefusal notional leverage gridId = none ↔
      g.ordersSubmitted < g.profile.maxOrders ∧
        (∀ k, gridId = some k →
          k ∈ g.activeGridIds ∨ g.activeGridIds.card < g.profile.maxConcurrentGrids) ∧
        leverage ≤ g.profile.maxLeverage ∧ notional ≤ g.profile.maxPositionSizeUsd ∧
          notional ≤ g.profile.maxTotalBudgetUsd := by
  unfold orderRefusal
  dsimp only
  have hgrids : (gridId.any fun k =>
      k ∉ g.activeGridIds ∧ g.profile.maxConcurrentGrids ≤ g.activeGridIds.card) = true ↔
        ¬ ∀ k, gridId = some k →
          k ∈ g.activeGridIds ∨ g.activeGridIds.card < g.profile.maxConcurrentGrids := by
    cases gridId <;> simp
  split_ifs with horders hgrid hleverage hposition hbudget
  · simp [horders]
  · simp [hgrids.1 hgrid]
  · simp [hleverage]
  · simp [hposition]
  · simp [hbudget]
  · simp only [true_iff]
    exact ⟨not_le.1 horders, not_not.1 (mt hgrids.2 hgrid), not_lt.1 hleverage, not_lt.1 hposition,
      not_lt.1 hbudget⟩

/-- The gate allows an order exactly when its limits leave room for it. -/
theorem checkOrderAllowed_eq_none_iff :
    (g.checkOrderAllowed notional leverage gridId now).1 = none ↔
      WithinLimits g notional leverage gridId now := by
  obtain ⟨loss, resetAt, hreset⟩ := g.maybeResetDailyLoss_eq now
  unfold checkOrderAllowed
  cases hreason : g.deactivationReason with
  | some reason =>
      refine ⟨fun h => absurd h (by simp), fun h => ?_⟩
      rw [h.active] at hreason
      cases hreason
  | none =>
      dsimp only
      split_ifs with hwindow hloss hdaily
      · exact ⟨fun h => absurd h (by simp), fun h => absurd h.window (not_lt.2 hwindow)⟩
      · exact ⟨fun h => absurd h (by simp), fun h => absurd h.loss (not_lt.2 hloss)⟩
      · refine ⟨fun h => absurd h (by simp), fun h => absurd h.dailyLoss (not_lt.2 ?_)⟩
        rwa [hreset] at hdaily ⊢
      · rw [orderRefusal_eq_none_iff]
        rw [hreset] at hdaily ⊢
        constructor
        · rintro ⟨horders, hgrids, hleverage, hposition, hbudget⟩
          exact ⟨hreason, not_le.1 hwindow, not_le.1 hloss, by rw [hreset]; exact not_le.1 hdaily,
            horders, hgrids, hleverage, hposition, hbudget⟩
        · intro h
          exact ⟨h.orders, h.grids, h.leverage, h.positionSize, h.budget⟩

end LiveVerificationState

/-- A gate with a budget. -/
def verificationGate : LiveVerificationState where
  profile :=
    { maxTotalBudgetUsd := 100
      maxLossUsd := 10
      maxDailyLossUsd := 10
      maxConcurrentGrids := 1
      maxOrders := 1
      maxExposureUsd := 100
      maxLeverage := 1
      maxPositionSizeUsd := 100
      maxDurationMinutes := 1
      startedAt := 0
      approvedBy := "operator"
      maxTotalBudgetUsd_pos := by decide
      maxLossUsd_pos := by decide
      maxDailyLossUsd_pos := by decide
      maxExposureUsd_pos := by decide
      maxPositionSizeUsd_pos := by decide
      maxConcurrentGrids_pos := by decide
      maxOrders_pos := by decide
      maxDurationMinutes_pos := by decide
      one_le_maxLeverage := by decide
      approvedBy_ne_empty := by decide }
  dailyLossResetAt := 0

end Sgr
