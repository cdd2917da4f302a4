import Mathlib.Algebra.Order.Field.Rat
import Sgr.Execution.Quantization

/-!
# Preflight validation

The checks of `sgr/execution/preflight.py` that an order passes right before it is
sent. Some checks run in every mode, the others only in LIVE mode; a check that the
exchange cannot answer is reported as not supported and does not block.
-/

namespace Sgr

/-- `PreflightCheckResult`. -/
structure PreflightCheckResult where
  name : String
  passed : Bool
  detail : String
  supported : Bool := true
  deriving DecidableEq, Repr

/-- `NOT_SUPPORTED_CHECKS`. -/
def notSupportedChecks : List String := ["api_permissions", "rate_limit_budget"]

/-- `PreflightResult.eligible`. -/
def eligible (checks : List PreflightCheckResult) : Bool :=
  checks.all fun c => !c.supported || c.passed

/-- `PreflightResult.failures`. -/
def failures (checks : List PreflightCheckResult) : List PreflightCheckResult :=
  checks.filter fun c => c.supported && !c.passed

/-- `PreflightResult.rejection_summary`. -/
def rejectionSummary (checks : List PreflightCheckResult) : String :=
  "; ".intercalate ((failures checks).map fun c => c.name ++ ": " ++ c.detail)

/-- An order is eligible when no check has failed. -/
theorem eligible_iff_failures_eq_nil (checks : List PreflightCheckResult) :
    eligible checks = true ↔ failures checks = [] := by
  rw [eligible, failures, List.all_eq_true, List.filter_eq_nil_iff]
  refine forall₂_congr fun c _ => ?_
  cases c.supported <;> simp

@[simp] theorem eligible_append (cs ds : List PreflightCheckResult) :
    eligible (cs ++ ds) = (eligible cs && eligible ds) := by
  simp [eligible]

theorem failures_append (cs ds : List PreflightCheckResult) :
    failures (cs ++ ds) = failures cs ++ failures ds :=
  List.filter_append cs ds

theorem length_intercalate_lt (sep : String) {k : String} (hk : 0 < k.length)
    (as bs : List String) :
    (sep.intercalate (as ++ bs)).length < (sep.intercalate (as ++ k :: bs)).length := by
  induction as with
  | nil =>
      cases bs with
      | nil => simpa using hk
      | cons b bs =>
          rw [List.nil_append, List.nil_append, String.intercalate_cons_cons]
          simp only [String.length_append]
          omega
  | cons a as ih =>
      have hne : as ++ k :: bs ≠ [] := by simp
      rw [List.cons_append, List.cons_append, String.intercalate_cons_of_ne_nil hne]
      by_cases hrest : as ++ bs = []
      · rw [hrest, String.intercalate_nil] at ih
        rw [hrest, String.intercalate_singleton]
        simp only [String.length_append] at ih ⊢
        omega
      · rw [String.intercalate_cons_of_ne_nil hrest]
        simp only [String.length_append]
        omega

/-- A failed check makes the summary longer. -/
theorem length_rejectionSummary_lt {c : PreflightCheckResult}
    (hc : (c.supported && !c.passed) = true) (hname : 0 < c.name.length)
    (cs ds : List PreflightCheckResult) :
    (rejectionSummary (cs ++ ds)).length < (rejectionSummary (cs ++ c :: ds)).length := by
  have hcons : failures (c :: ds) = c :: failures ds := by
    simp only [failures, List.filter_cons, hc, if_true]
  rw [rejectionSummary, rejectionSummary, failures_append, failures_append, hcons,
    List.map_append, List.map_append, List.map_cons]
  refine length_intercalate_lt "; " ?_ _ _
  simp only [String.length_append]
  omega

/-- The risk limits of the configuration that the checks read. -/
structure RiskLimitsConfig where
  maxLeverage : ℚ := 3
  maxOrderNotional : Option ℚ := some 10000
  defaultLeverage : ℚ := 1

/-- `_check_order_quantity_positive`. -/
def checkOrderQuantityPositive (o : OrderRequest) : PreflightCheckResult :=
  if o.quantity ≤ 0 then
    { name := "order_quantity_positive"
      passed := false
      detail := "Order quantity must be positive, got " ++ toString o.quantity }
  else
    { name := "order_quantity_positive"
      passed := true
      detail := "quantity=" ++ toString o.quantity }

/-- `_check_reduce_only_consistency_static`: only the flag is reported. -/
def checkReduceOnlyConsistencyStatic (o : OrderRequest) : PreflightCheckResult where
  name := "reduce_only_flag_present"
  passed := true
  detail := "reduce_only=" ++ if o.reduceOnly then "True" else "False"

/-- `_check_kill_switch_inactive`. -/
def checkKillSwitchInactive (isActive : Bool) : PreflightCheckResult where
  name := "kill_switch_inactive"
  passed := !isActive
  detail := if isActive then "Kill switch is active" else "Kill switch inactive"

/-- `_check_connection_and_clock` on the answer of `ping`. -/
def checkConnectionAndClock : Except ExchangeError ℚ → PreflightCheckResult
  | .error e =>
      { name := "connection_and_clock"
        passed := false
        detail := e.typeName ++ ": " ++ e.text }
  | .ok latency =>
      { name := "connection_and_clock"
        passed := true
        detail := "latency=" ++ toString latency ++ "ms" }

/-- `_check_market_status` on the answer of `get_market_status`. -/
def checkMarketStatus : Except ExchangeError MarketStatus → PreflightCheckResult
  | .error e =>
      if e.isNotSupported then
        { name := "market_status"
          passed := false
          detail := "Exchange does not support market status introspection"
          supported := false }
      else
        { name := "market_status"
          passed := false
          detail := "Could not fetch market status: " ++ e.text }
  | .ok status =>
      { name := "market_status"
        passed := status.isOnline
        detail :=
          if status.isOnline then "status='" ++ status.rawStatus ++ "'"
          else "Exchange not online (status='" ++ status.rawStatus ++ "')" }

/-- `_check_symbol_availability` on the answer of `get_exchange_info`. -/
def checkSymbolAvailability (o : OrderRequest) :
    Except ExchangeError ExchangeInfo → PreflightCheckResult
  | .error e =>
      { name := "symbol_availability"
        passed := false
        detail := "Could not fetch exchange info: " ++ e.text }
  | .ok info =>
      if o.symbol.ccxtSymbol ∈ info.symbols then
        { name := "symbol_availability"
          passed := true
          detail := o.symbol.ccxtSymbol ++ " available" }
      else
        { name := "symbol_availability"
          passed := false
          detail := "Symbol " ++ o.symbol.ccxtSymbol ++ " not listed on " ++
            info.exchangeId.value }

/-- The limits that an order violates, in the order they are checked. -/
def limitViolations (o : OrderRequest) (limits : SymbolLimits) : List String :=
  (if below o.quantity limits.minAmount then
    ["quantity " ++ toString o.quantity ++ " < min_amount " ++
      optionText limits.minAmount] else []) ++
  (if above o.quantity limits.maxAmount then
    ["quantity " ++ toString o.quantity ++ " > max_amount " ++
      optionText limits.maxAmount] else []) ++
  (if o.limitPrice.any fun price => below (o.quantity * price) limits.minNotional then
    ["notional~" ++ optionText (o.limitPrice.map (o.quantity * ·)) ++ " < min_notional " ++
      optionText limits.minNotional] else [])

/-- The limits that are present. -/
def limitsChecked (limits : SymbolLimits) : List String :=
  (if limits.minAmount.isSome then ["min_amount"] else []) ++
  (if limits.maxAmount.isSome then ["max_amount"] else []) ++
  (if limits.minNotional.isSome then ["min_notional"] else [])

/-- `_check_symbol_precision_and_limits` on the answer of `get_exchange_info`. -/
def checkSymbolPrecisionAndLimits (o : OrderRequest) :
    Except ExchangeError ExchangeInfo → PreflightCheckResult
  | .error e =>
      { name := "symbol_precision_and_limits"
        passed := false
        detail := "Could not fetch exchange info: " ++ e.text }
  | .ok info =>
      match info.symbolLimits o.symbol.ccxtSymbol with
      | none =>
          { name := "symbol_precision_and_limits"
            passed := false
            detail := "No precision/limits data available for " ++ o.symbol.ccxtSymbol
            supported := false }
      | some limits =>
          if limitViolations o limits ≠ [] then
            { name := "symbol_precision_and_limits"
              passed := false
              detail := "; ".intercalate (limitViolations o limits) }
          else if limitsChecked limits = [] then
            { name := "symbol_precision_and_limits"
              passed := false
              detail := "Exchange reports no usable limits for " ++ o.symbol.ccxtSymbol
              supported := false }
          else
            { name := "symbol_precision_and_limits"
              passed := true
              detail := "quantity=" ++ toString o.quantity ++ " within limits (" ++
                ", ".intercalate (limitsChecked limits) ++ " checked)" }

/-- `_check_balance_and_capital` on the free balance. -/
def checkBalanceAndCapital (o : OrderRequest) :
    Except ExchangeError ℚ → PreflightCheckResult
  | .error e =>
      { name := "balance_and_available_capital"
        passed := false
        detail := "Could not fetch balance: " ++ e.text }
  | .ok free =>
      match o.limitPrice with
      | some price =>
          if free < o.quantity * price then
            { name := "balance_and_available_capital"
              passed := false
              detail := "Insufficient free balance: required~" ++
                toString (o.quantity * price) ++ ", available=" ++ toString free }
          else
            { name := "balance_and_available_capital"
              passed := true
              detail := "free=" ++ toString free ++ " >= required~" ++
                toString (o.quantity * price) }
      | none =>
          if free ≤ 0 then
            { name := "balance_and_available_capital"
              passed := false
              detail := "No free balance available (free=" ++ toString free ++ ")" }
          else
            { name := "balance_and_available_capital"
              passed := true
              detail := "free=" ++ toString free ++ " (market order - exact notional " ++
                "unknown before fill, only non-zero balance verified)" }

/-- The first position on the symbol of the order. -/
def existingPosition (o : OrderRequest) (positions : List Position) : Option Position :=
  positions.find? fun p => p.symbol = o.symbol

/-- `_check_leverage` on the answer of `get_positions`. -/
def checkLeverage (limits : RiskLimitsConfig) (o : OrderRequest) :
    Except ExchangeError (List Position) → PreflightCheckResult
  | .error e =>
      { name := "leverage_within_limit"
        passed := false
        detail := "Could not fetch positions: " ++ e.text }
  | .ok positions =>
      match existingPosition o positions with
      | none =>
          { name := "leverage_within_limit"
            passed := true
            detail := "No existing position for symbol - leverage starts at default" }
      | some p =>
          if limits.maxLeverage < p.leverage then
            { name := "leverage_within_limit"
              passed := false
              detail := "Existing position leverage " ++ toString p.leverage ++
                " exceeds max " ++ toString limits.maxLeverage }
          else
            { name := "leverage_within_limit"
              passed := true
              detail := "leverage=" ++ toString p.leverage ++ " <= max " ++
                toString limits.maxLeverage }

/-- `_check_position_mode_consistency` on the answer of `get_position_mode`, which is
asked for reduce-only orders only. -/
def checkPositionModeConsistency (o : OrderRequest) :
    Except ExchangeError Bool → PreflightCheckResult
  | answer =>
      if !o.reduceOnly then
        { name := "position_mode_consistency"
          passed := true
          detail := "Not a reduce-only order - position mode irrelevant" }
      else
        match answer with
        | .error e =>
            if e.isNotSupported then
              { name := "position_mode_consistency"
                passed := false
                detail := "Exchange does not support position mode introspection"
                supported := false }
            else
              { name := "position_mode_consistency"
                passed := false
                detail := "Could not fetch position mode: " ++ e.text }
        | .ok hedged =>
            { name := "position_mode_consistency"
              passed := true
              detail := "hedged=" ++ (if hedged then "True" else "False") ++
                " (reduce_only validated per-position downstream)" }

/-- `_check_reduce_only_against_position` on the answer of `get_positions`, which is
asked for reduce-only orders only. -/
def checkReduceOnlyAgainstPosition (o : OrderRequest) :
    Except ExchangeError (List Position) → PreflightCheckResult
  | answer =>
      if !o.reduceOnly then
        { name := "reduce_only_position_safety"
          passed := true
          detail := "Not a reduce-only order - no position-closing safety required" }
      else
        match answer with
        | .error e =>
            { name := "reduce_only_position_safety"
              passed := false
              detail := "Could not fetch positions to verify reduce-only: " ++ e.text }
        | .ok positions =>
            match (existingPosition o positions).filter fun p => 0 < p.quantity with
            | none =>
                { name := "reduce_only_position_safety"
                  passed := false
                  detail := "reduce_only=True but no open position exists for " ++
                    o.symbol.str ++ " - would open a new position instead of reducing" }
            | some p =>
                if p.quantity < o.quantity then
                  { name := "reduce_only_position_safety"
                    passed := false
                    detail := "reduce_only order quantity " ++ toString o.quantity ++
                      " exceeds open position quantity " ++ toString p.quantity ++
                      " - would flip/over-close position" }
                else
                  { name := "reduce_only_position_safety"
                    passed := true
                    detail := "order qty " ++ toString o.quantity ++
                      " <= open position qty " ++ toString p.quantity }

/-- `_check_max_order_notional`. -/
def checkMaxOrderNotional (limits : RiskLimitsConfig) (o : OrderRequest) :
    PreflightCheckResult :=
  match limits.maxOrderNotional, o.limitPrice with
  | none, _ =>
      { name := "max_order_notional_double_check"
        passed := true
        detail := "max_order_notional disabled in config - nothing to check" }
  | some _, none =>
      { name := "max_order_notional_double_check"
        passed := true
        detail := "Market order - exact notional unknown before fill, skipped" }
  | some bound, some price =>
      if bound < o.quantity * price then
        { name := "max_order_notional_double_check"
          passed := false
          detail := "Order notional " ++ toString (o.quantity * price) ++
            " exceeds max_order_notional " ++ toString bound }
      else
        { name := "max_order_notional_double_check"
          passed := true
          detail := "notional=" ++ toString (o.quantity * price) ++ " <= max " ++
            toString bound }

/-- The checks of `validate` that run before the first request to the exchange. -/
def staticChecks (o : OrderRequest) : List PreflightCheckResult :=
  [checkOrderQuantityPositive o, checkReduceOnlyConsistencyStatic o] ++
    notSupportedChecks.map fun name =>
      { name := name
        passed := false
        detail := "Not supported by current exchange adapter abstraction"
        supported := false }

/-- The failed check of a LIVE order without an adapter. -/
def noAdapterCheck (o : OrderRequest) : PreflightCheckResult where
  name := "exchange_credentials_and_connection"
  passed := false
  detail := "No usable adapter for " ++ o.symbol.exchange.value ++ "/live: 'Exchange " ++
    o.symbol.exchange.value ++ " (live) not in pool. Call initialize() first.'"

/-- What the adapter answers to the LIVE checks. -/
structure LiveAnswers where
  ping : Except ExchangeError ℚ
  marketStatus : Except ExchangeError MarketStatus
  exchangeInfo : Except ExchangeError ExchangeInfo
  freeBalance : Except ExchangeError ℚ
  positions : Except ExchangeError (List Position)
  positionMode : Except ExchangeError Bool
  positionsAgain : Except ExchangeError (List Position)

/-- The checks of `validate` that run in LIVE mode only, after the kill switch. -/
def liveChecks (limits : RiskLimitsConfig) (o : OrderRequest) (answers : LiveAnswers) :
    List PreflightCheckResult :=
  [checkConnectionAndClock answers.ping, checkMarketStatus answers.marketStatus,
    checkSymbolAvailability o answers.exchangeInfo,
    checkBalanceAndCapital o answers.freeBalance, checkLeverage limits o answers.positions,
    checkPositionModeConsistency o answers.positionMode,
    checkReduceOnlyAgainstPosition o answers.positionsAgain,
    checkMaxOrderNotional limits o]

section Names

variable (limits : RiskLimitsConfig) (o : OrderRequest)

@[simp] theorem name_checkOrderQuantityPositive :
    (checkOrderQuantityPositive o).name = "order_quantity_positive" := by
  unfold checkOrderQuantityPositive
  split <;> rfl

@[simp] theorem name_checkConnectionAndClock (answer : Except ExchangeError ℚ) :
    (checkConnectionAndClock answer).name = "connection_and_clock" := by
  cases answer <;> rfl

@[simp] theorem name_checkMarketStatus (answer : Except ExchangeError MarketStatus) :
    (checkMarketStatus answer).name = "market_status" := by
  unfold checkMarketStatus
  split
  · split <;> rfl
  · rfl

@[simp] theorem name_checkSymbolAvailability (answer : Except ExchangeError ExchangeInfo) :
    (checkSymbolAvailability o answer).name = "symbol_availability" := by
  unfold checkSymbolAvailability
  split
  · rfl
  · split <;> rfl

@[simp] theorem name_checkSymbolPrecisionAndLimits
    (answer : Except ExchangeError ExchangeInfo) :
    (checkSymbolPrecisionAndLimits o answer).name = "symbol_precision_and_limits" := by
  unfold checkSymbolPrecisionAndLimits
  split
  · rfl
  · split
    · rfl
    · split
      · rfl
      · split <;> rfl

@[simp] theorem name_checkBalanceAndCapital (answer : Except ExchangeError ℚ) :
    (checkBalanceAndCapital o answer).name = "balance_and_available_capital" := by
  unfold checkBalanceAndCapital
  split
  · rfl
  · split
    · split <;> rfl
    · split <;> rfl

@[simp] theorem name_checkLeverage (answer : Except ExchangeError (List Position)) :
    (checkLeverage limits o answer).name = "leverage_within_limit" := by
  unfold checkLeverage
  split
  · rfl
  · split
    · rfl
    · split <;> rfl

@[simp] theorem name_checkPositionModeConsistency (answer : Except ExchangeError Bool) :
    (checkPositionModeConsistency o answer).name = "position_mode_consistency" := by
  unfold checkPositionModeConsistency
  dsimp only
  split
  · rfl
  · split
    · split <;> rfl
    · rfl

@[simp] theorem name_checkReduceOnlyAgainstPosition
    (answer : Except ExchangeError (List Position)) :
    (checkReduceOnlyAgainstPosition o answer).name = "reduce_only_position_safety" := by
  unfold checkReduceOnlyAgainstPosition
  dsimp only
  split
  · rfl
  · split
    · rfl
    · split
      · rfl
      · split <;> rfl

@[simp] theorem name_checkMaxOrderNotional :
    (checkMaxOrderNotional limits o).name = "max_order_notional_double_check" := by
  unfold checkMaxOrderNotional
  split
  · rfl
  · rfl
  · split <;> rfl

/-- The checks of the account block when they fail. -/
theorem supported_checkBalanceAndCapital (answer : Except ExchangeError ℚ) :
    (checkBalanceAndCapital o answer).supported = true := by
  unfold checkBalanceAndCapital
  split
  · rfl
  · split
    · split <;> rfl
    · split <;> rfl

theorem supported_checkLeverage (answer : Except ExchangeError (List Position)) :
    (checkLeverage limits o answer).supported = true := by
  unfold checkLeverage
  split
  · rfl
  · split
    · rfl
    · split <;> rfl

end Names

/-- The static checks block an order exactly when its quantity is not positive. -/
theorem eligible_staticChecks_iff (o : OrderRequest) :
    eligible (staticChecks o) = true ↔ 0 < o.quantity := by
  by_cases h : o.quantity ≤ 0
  · simp [eligible, staticChecks, notSupportedChecks, checkOrderQuantityPositive,
      checkReduceOnlyConsistencyStatic, h]
  · simp [eligible, staticChecks, notSupportedChecks, checkOrderQuantityPositive,
      checkReduceOnlyConsistencyStatic, h, not_le.1 h]

/-! ### The rows of a reduce-only order -/

/-- The side of the positions that an order reduces. -/
def Side.reduces : Side → PositionSide
  | .sell => .long
  | .buy => .short

namespace Position

/-- An open position that is at least as large as the order. -/
def Covers (p : Position) (o : OrderRequest) : Prop := 0 < p.quantity ∧ o.quantity ≤ p.quantity

/-- A position on the symbol of the order and on the side that the order reduces. -/
def IsReducedBy (p : Position) (o : OrderRequest) : Prop :=
  p.symbol = o.symbol ∧ p.side = o.side.reduces

end Position

/-- There is a position that the order reduces by its whole quantity. -/
def CanReduce (o : OrderRequest) (positions : List Position) : Prop :=
  ∃ p ∈ positions, p.IsReducedBy o ∧ p.Covers o

/-- The first row on the symbol of the order stands for the rows on the side that the order
reduces: on the other side it is not large enough without one of them being so, and it is not
too small while one of them is large enough. -/
structure FirstRowDecides (o : OrderRequest) (positions : List Position) : Prop where
  side : ∀ p, existingPosition o positions = some p → p.side ≠ o.side.reduces → p.Covers o →
    ∃ q ∈ positions, q.IsReducedBy o ∧ q.Covers o
  size : ∀ p, existingPosition o positions = some p → ¬ p.Covers o →
    ∀ q ∈ positions, q.IsReducedBy o → ¬ q.Covers o

section ReduceOnly

variable {o : OrderRequest} {positions : List Position}

/-- The check looks at the first row on the symbol, and not at its side. -/
theorem passed_checkReduceOnly_iff (h : o.reduceOnly = true) :
    (checkReduceOnlyAgainstPosition o (.ok positions)).passed = true ↔
      ∃ p, existingPosition o positions = some p ∧ p.Covers o := by
  unfold checkReduceOnlyAgainstPosition Position.Covers
  dsimp only
  rw [h, Bool.not_true, if_neg Bool.false_ne_true]
  cases existingPosition o positions with
  | none => simp
  | some p =>
      by_cases hopen : 0 < p.quantity
      · by_cases hlarge : p.quantity < o.quantity
        · simp [Option.filter, hopen, hlarge]
        · simp [Option.filter, hopen, hlarge, not_lt.1 hlarge]
      · simp [Option.filter, hopen]

end ReduceOnly

/-- The positions of the examples. -/
def Position.row (side : PositionSide) (quantity : ℚ) : Position where
  id := 0
  symbol := btcUsdt
  side := side
  quantity := quantity
  entryPrice := 100
  currentPrice := 100
  openedAt := 0
  strategyName := "unknown"
  tradingMode := .live

/-- A reduce-only order of the examples. -/
def OrderRequest.reducing (side : Side) (quantity : ℚ) : OrderRequest :=
  { OrderRequest.market 1 side quantity .live with reduceOnly := true }

end Sgr
