import Mathlib.Algebra.BigOperators.Group.List.Basic
import Mathlib.Data.List.Sort
import Sgr.Risk.Engine.Sizing

/-!
# The risk engine

`RiskEngine` of `sgr/risk/engine.py`: `evaluate` takes a signal through the kill switch, the
cooldown, the check for a second position on the symbol, the limits, the sizer and the caps,
and `build_order_request` makes an order of an assessment. Floats are exact rationals, and
times are seconds.
-/

open Arithmetic

namespace Sgr

inductive RiskDecision
  | approved
  | rejected
  | reduced
  deriving DecidableEq, Repr

inductive LimitType
  | hard
  | soft
  | monitor
  deriving DecidableEq, Repr

inductive LimitStatus
  | ok
  | warning
  | breached
  deriving DecidableEq, Repr

/-- The result of a limit check. -/
structure LimitCheck where
  name : String
  limitType : LimitType
  status : LimitStatus
  currentValue : ℚ
  limitValue : ℚ
  message : String
  reductionFactor : ℚ := 1

/-- `RiskMetrics`. -/
structure RiskMetrics where
  timestamp : ℚ
  portfolioValue : ℚ
  dailyPnl : ℚ := 0
  dailyPnlPct : ℚ := 0
  drawdownFromPeak : ℚ := 0
  var95 : ℚ := 0
  expectedShortfall : ℚ := 0
  portfolioHeat : ℚ := 0
  activePositions : ℕ := 0
  correlationExposure : ℚ := 0
  grossLeverage : ℚ := 0

/-- `RiskAssessment`. -/
structure RiskAssessment where
  signalId : UUID
  decision : RiskDecision
  approvedQuantity : ℚ
  rejectionReason : Option String := none
  riskMetricsSnapshot : RiskMetrics
  warnings : List String := []

/-- The attributes of `RiskEngine` that `evaluate` and `record_trade` read and write. -/
structure RiskEngineState where
  peakPortfolioValue : ℚ := 0
  dailyPnlStart : Option ℚ := none
  /-- The day, counted from the epoch. -/
  dailyPnlDate : Option ℤ := none
  returnHistory : List ℚ := []
  lastTradeAt : String → Option ℚ := fun _ => none

/-- What a call of `evaluate` takes from outside. -/
structure EvaluateCall where
  signal : Signal
  openPositions : List Position
  portfolioValue : ℚ
  availableCapital : ℚ
  currentPrice : ℚ
  atr : Option ℚ := none
  winRate : Option ℚ := none
  profitFactor : Option ℚ := none
  /-- `_kill_switch.is_active`. -/
  killSwitchActive : Bool := false
  now : ℚ

/-- What `evaluate` leaves: the state of the engine, the assessment, and the reason with
which it has triggered the kill switch. -/
structure Evaluation where
  engine : RiskEngineState
  assessment : RiskAssessment
  trigger : Option String := none

/-! ### The cooldown -/

/-- `_cooldown_key`. -/
def cooldownKey (symbolKey strategyName : String) : String := symbolKey ++ "|" ++ strategyName

/-- `record_trade`. -/
def RiskEngineState.recordTrade (s : RiskEngineState) (symbolKey strategyName : String)
    (now : ℚ) : RiskEngineState :=
  { s with
    lastTradeAt := Function.update s.lastTradeAt (cooldownKey symbolKey strategyName)
      (some now) }

/-- `_cooldown_remaining_seconds`. -/
def cooldownRemaining (limits : RiskLimits) (s : RiskEngineState) (signal : Signal)
    (now : ℚ) : ℚ :=
  if limits.tradeCooldownSeconds = 0 then 0
  else
    match s.lastTradeAt (cooldownKey signal.symbol.ccxtSymbol signal.strategyName) with
    | none => 0
    | some last => max 0 (limits.tradeCooldownSeconds - (now - last))

/-! ### The metrics -/

/-- `np.percentile` at 95 of values in ascending order. -/
def percentile95 (values : List ℚ) : ℚ :=
  let place : ℚ := (values.length - 1) * (95 / 100)
  let below := values.getD ⌊place⌋.toNat 0
  let above := values.getD (⌊place⌋.toNat + 1) below
  below + (place - ⌊place⌋) * (above - below)

/-- `_historical` of `VaRCalculator`: the value at risk and the expected shortfall. -/
def historicalVar (returns : List ℚ) : ℚ × ℚ :=
  let losses := (returns.map fun x => -x).insertionSort (· ≤ ·)
  let var := percentile95 losses
  let tail := losses.filter fun x => var ≤ x
  let shortfall := if tail.isEmpty then var else tail.sum / tail.length
  (max var 0, max shortfall var)

/-- The value at risk and the expected shortfall of the history of returns. -/
def varOf (history : List ℚ) : ℚ × ℚ :=
  if 10 ≤ history.length then historicalVar (history.drop (history.length - 30)) else (0, 0)

/-- The notional value of all positions. -/
def totalNotional (positions : List Position) : ℚ := (positions.map Position.notionalValue).sum

/-- `_compute_metrics`. -/
def computeMetrics (s : RiskEngineState) (portfolioValue : ℚ) (positions : List Position)
    (now : ℚ) : RiskEngineState × RiskMetrics :=
  let peak := max s.peakPortfolioValue portfolioValue
  let today := ⌊now / 86400⌋
  let start := if s.dailyPnlDate = some today then s.dailyPnlStart else some portfolioValue
  let dailyPnl := portfolioValue - (start.filter fun x => x ≠ 0).getD portfolioValue
  let leverage :=
    if 0 < portfolioValue then totalNotional positions / portfolioValue else 0
  ({ s with
      peakPortfolioValue := peak
      dailyPnlDate := some today
      dailyPnlStart := start },
    { timestamp := now
      portfolioValue := portfolioValue
      dailyPnl := dailyPnl
      dailyPnlPct := if 0 < portfolioValue then dailyPnl / portfolioValue else 0
      drawdownFromPeak := if 0 < peak then (peak - portfolioValue) / peak else 0
      var95 := (varOf s.returnHistory).1
      expectedShortfall := (varOf s.returnHistory).2
      portfolioHeat := leverage
      activePositions := positions.length
      correlationExposure := min (positions.length * (1 / 10)) 1
      grossLeverage := leverage })

/-- `_empty_metrics`. -/
def emptyMetrics (portfolioValue now : ℚ) : RiskMetrics where
  timestamp := now
  portfolioValue := portfolioValue

/-! ### The limits -/

/-- `_check_threshold`. -/
def checkThreshold (name : String) (limitType : LimitType) (current limit : ℚ)
    (message : String) (warningThreshold : ℚ := 9 / 10) (reductionFactor : ℚ := 1 / 2) :
    LimitCheck :=
  let status :=
    if limit ≤ current then LimitStatus.breached
    else if limit * warningThreshold ≤ current then .warning else .ok
  { name := name
    limitType := limitType
    status := status
    currentValue := current
    limitValue := limit
    message := message
    reductionFactor := if status = .breached then reductionFactor else 1 }

/-- The loss of the day as a fraction of the portfolio value. -/
def dailyLoss (metrics : RiskMetrics) : ℚ :=
  if metrics.dailyPnlPct < 0 then -metrics.dailyPnlPct else 0

/-- The checks of the hard limits. -/
def hardChecks (limits : RiskLimits) (metrics : RiskMetrics) : List LimitCheck :=
  [checkThreshold "max_drawdown" .hard metrics.drawdownFromPeak limits.maxPortfolioDrawdown
      ("Portfolio drawdown " ++ percentText 1 metrics.drawdownFromPeak ++
        " exceeds hard limit " ++ percentText 1 limits.maxPortfolioDrawdown),
    checkThreshold "daily_loss" .hard (dailyLoss metrics) limits.dailyLossLimit
      ("Daily loss " ++ percentText 1 (dailyLoss metrics) ++ " exceeds hard limit " ++
        percentText 1 limits.dailyLossLimit),
    checkThreshold "max_positions" .hard metrics.activePositions limits.maxOpenPositions
      ("Open positions " ++ fixedText 0 metrics.activePositions ++ " exceeds max " ++
        fixedText 0 limits.maxOpenPositions),
    checkThreshold "max_leverage" .hard metrics.grossLeverage limits.maxLeverage
      ("Gross leverage " ++ fixedText 2 metrics.grossLeverage ++ "x exceeds hard limit " ++
        fixedText 2 limits.maxLeverage ++ "x")]

/-- The checks of the soft limits. -/
def softChecks (limits : RiskLimits) (metrics : RiskMetrics) : List LimitCheck :=
  [checkThreshold "var_95" .soft metrics.var95 limits.var95Limit
      ("VaR 95% " ++ percentText 2 metrics.var95 ++ " exceeds soft limit " ++
        percentText 2 limits.var95Limit) (4 / 5),
    checkThreshold "portfolio_heat" .soft metrics.portfolioHeat limits.portfolioHeatLimit
      ("Portfolio heat " ++ percentText 1 metrics.portfolioHeat ++ " exceeds soft limit " ++
        percentText 1 limits.portfolioHeatLimit) (17 / 20) (1 / 4),
    checkThreshold "correlation_exposure" .soft metrics.correlationExposure
      limits.maxCorrelationExposure
      ("Correlation exposure " ++ fixedText 2 metrics.correlationExposure ++
        " exceeds limit " ++ fixedText 2 limits.maxCorrelationExposure)]

/-- `_run_all_checks`. -/
def runAllChecks (limits : RiskLimits) (metrics : RiskMetrics) : List LimitCheck :=
  hardChecks limits metrics ++ softChecks limits metrics

/-- A check of the given type is breached. -/
def LimitCheck.isBreached (limitType : LimitType) (check : LimitCheck) : Bool :=
  check.status = .breached && check.limitType = limitType

/-- `has_hard_breach`. -/
def hasHardBreach (checks : List LimitCheck) : Bool := checks.any (LimitCheck.isBreached .hard)

/-- `min_reduction_factor`. -/
def minReductionFactor (checks : List LimitCheck) : ℚ :=
  match (checks.filter (LimitCheck.isBreached .soft)).map LimitCheck.reductionFactor with
  | [] => 1
  | factor :: factors => factors.foldl min factor

/-! ### The evaluation -/

namespace EvaluateCall

variable (limits : RiskLimits) (call : EvaluateCall)

/-- `_reject`. -/
def reject (reason : String) (metrics : RiskMetrics) : RiskAssessment where
  signalId := call.signal.id
  decision := .rejected
  approvedQuantity := 0
  rejectionReason := some reason
  riskMetricsSnapshot := metrics

/-- The signal opens or enlarges a position. -/
def opens : Bool := call.signal.direction = .long || call.signal.direction = .short

/-- There is a position on the symbol of the signal. -/
def hasPosition : Bool :=
  call.openPositions.any fun p => p.symbol.str = call.signal.symbol.str

/-- The arguments of the sizer. -/
def sizing (metrics : RiskMetrics) : SizingCall where
  signal := call.signal
  portfolioValue := call.portfolioValue
  availableCapital := call.availableCapital
  currentPrice := call.currentPrice
  atr := call.atr
  portfolioHeat := metrics.portfolioHeat
  winRate := call.winRate
  profitFactor := call.profitFactor

/-- The notional value that `max_leverage` leaves for a new order. -/
def leverageHeadroom (metrics : RiskMetrics) : ℚ :=
  limits.maxLeverage * call.portfolioValue - metrics.grossLeverage * call.portfolioValue

/-- The quantity under the leverage cap; the flag says that it is capped, and `none` that
there is no headroom. -/
def capLeverage (metrics : RiskMetrics) (quantity : ℚ) : Option (ℚ × Bool) :=
  if 0 < limits.maxLeverage ∧ 0 < call.currentPrice ∧
      call.leverageHeadroom limits metrics < quantity * call.currentPrice then
    if call.leverageHeadroom limits metrics ≤ 0 then none
    else some (call.leverageHeadroom limits metrics / call.currentPrice, true)
  else some (quantity, false)

/-- The exposure with the order, when it is above the cap. -/
def exceedsExposure (quantity : ℚ) : Bool :=
  limits.maxTotalExposurePct.any fun pct =>
    0 < call.portfolioValue && decide (call.portfolioValue * pct <
      totalNotional call.openPositions + quantity * call.currentPrice)

/-- The text of a rejection by the exposure cap. -/
def exposureText (quantity : ℚ) : String :=
  let pct := limits.maxTotalExposurePct.getD 0
  "Global exposure cap: existing " ++ toString (totalNotional call.openPositions) ++
    " + proposed " ++ toString (quantity * call.currentPrice) ++ " would exceed " ++
    toString (call.portfolioValue * pct) ++ " (" ++ percentText 0 pct ++ " of equity " ++
    toString call.portfolioValue ++ ")"

/-- The warnings of an assessment that is not rejected. -/
def warnings (checks : List LimitCheck) (factor : ℚ) (capped : Bool)
    (reason : Option String) : List String :=
  (if factor < 1 then
      ["Position reduced to " ++ percentText 0 factor ++ " due to soft limit breach"]
    else []) ++
  (if capped then
      ["Position reduced to stay within pre-trade leverage cap (" ++
        toString limits.maxLeverage ++ "x)"]
    else []) ++
  checks.filterMap (fun check =>
    if check.isBreached .soft then some ("Soft limit: " ++ check.message)
    else if check.status = .warning then some ("Warning: " ++ check.message) else none) ++
  (reason.map fun text => "Size reduced: " ++ text).toList

/-- `_evaluate_internal` from the sizing on, with the metrics and the checks of the limits. -/
def assess (metrics : RiskMetrics) (checks : List LimitCheck) (size : ℚ × Option String) :
    RiskAssessment :=
  let factor := minReductionFactor checks
  let quantity := if factor < 1 then size.1 * factor else size.1
  match call.capLeverage limits metrics quantity with
  | none =>
      call.reject ("Pre-trade leverage cap: portfolio already at/above " ++
        toString limits.maxLeverage ++ "x gross leverage, no headroom for new exposure") metrics
  | some (quantity, capped) =>
      if call.exceedsExposure limits quantity then
        call.reject (call.exposureText limits quantity) metrics
      else if quantity ≤ 0 then
        call.reject (size.2.getD "Position size computed as 0") metrics
      else
        { signalId := call.signal.id
          decision := if factor < 1 ∨ size.2.isSome ∨ capped then .reduced else .approved
          approvedQuantity := quantity
          riskMetricsSnapshot := metrics
          warnings := warnings limits checks factor capped size.2 }

/-- The assessment when an exception is raised, by a quantity that does not fit into the
context of the decimals. -/
def failed : RiskAssessment :=
  { call.reject "Risk engine error: [<class 'decimal.InvalidOperation'>]"
      (emptyMetrics call.portfolioValue call.now) with
    warnings := ["Risk engine encountered an error – trade rejected for safety"] }

end EvaluateCall

/-- The messages of the hard limits that are breached. -/
def hardBreachText (checks : List LimitCheck) : String :=
  "; ".intercalate
    ((checks.filter (LimitCheck.isBreached .hard)).map LimitCheck.message)

/-- `evaluate`. -/
def evaluate (limits : RiskLimits) (s : RiskEngineState) (call : EvaluateCall) : Evaluation :=
  let empty := emptyMetrics call.portfolioValue call.now
  let remaining := cooldownRemaining limits s call.signal call.now
  if call.killSwitchActive then ⟨s, call.reject "Kill switch is active" empty, none⟩
  else if 0 < remaining then
    ⟨s, call.reject ("Cooldown active: " ++ fixedText 0 remaining ++ "s remaining for " ++
      call.signal.symbol.ccxtSymbol ++ "/" ++ call.signal.strategyName) empty, none⟩
  else if call.opens && call.hasPosition then
    ⟨s, call.reject ("Position already open for " ++ call.signal.symbol.ccxtSymbol ++
      " - avoid pyramiding/opposite exposure without explicit support") empty, none⟩
  else
    let c := computeMetrics s call.portfolioValue call.openPositions call.now
    let checks := runAllChecks limits c.2
    if hasHardBreach checks then
      ⟨c.1, call.reject (hardBreachText checks) c.2, some (hardBreachText checks)⟩
    else
      ⟨c.1, ((computeSize limits (call.sizing c.2)).map
        (call.assess limits c.2 checks)).getD call.failed, none⟩

/-! ### The order -/

/-- `build_order_request`; `none` is a `ValueError`. -/
def buildOrderRequest (limits : RiskLimits) (mode : TradingMode) (id : UUID)
    (signal : Signal) (assessment : RiskAssessment) (currentPrice : Option ℚ) :
    Option OrderRequest :=
  let limited := decide (limits.var95Limit * (4 / 5) < assessment.riskMetricsSnapshot.var95)
  if limited ∧ currentPrice.isNone then none
  else
    some
      { id := id
        signalId := signal.id
        symbol := signal.symbol
        side := if signal.direction = .long then .buy else .sell
        orderType := if limited then .limit else .market
        quantity := assessment.approvedQuantity
        limitPrice := if limited then currentPrice else none
        tradingMode := mode
        metadata :=
          { strategy := some signal.strategyName
            entryRegime := some signal.regime
            targetPrice := signal.metadata.targetPrice.filter fun x => x ≠ 0
            stopPrice := signal.metadata.stopPrice.filter fun x => x ≠ 0 } }

/-- The order that a trading cycle hands to `execute`; `none` when the signal is rejected
or the order cannot be built. -/
def handedOrder (limits : RiskLimits) (mode : TradingMode) (id : UUID) (s : RiskEngineState)
    (call : EvaluateCall) : Option OrderRequest :=
  let assessment := (evaluate limits s call).assessment
  if assessment.decision = .rejected then none
  else buildOrderRequest limits mode id call.signal assessment (some call.currentPrice)

/-- The signals of the examples. -/
def Signal.btc (direction : SignalDirection) : Signal where
  id := 2
  strategyName := "trend"
  symbol := btcUsdt
  direction := direction
  confidence := 1
  regime := .ranging
  confidence_mem := ⟨zero_le_one, le_rfl⟩

end Sgr
