import Sgr.Compliance.Engine
import Sgr.Risk.GridApproval

/-!
# The admission of a grid

`open_grid` of `sgr/execution/grid_controller.py` before a level is touched: the kill switch of the
symbol, the modes of a LIVE account, what the exchange offers, what the account may trade and the
risk engine, one after the other. The first one that objects refuses the grid. An exchange that does
not answer about its modes does not object.
-/

namespace Sgr

/-- `MarginMode`. -/
inductive MarginMode
  | cross
  | isolated
  deriving DecidableEq, Repr

/-- The set-up of a `GridController` that `open_grid` reads. -/
structure GridAdmission where
  tradingMode : TradingMode
  compliance : ComplianceEngine
  limits : GridOpeningLimits
  costs : Option PaperLimits
  ratioPower : ℚ → ℕ → ℕ → ℚ

/-- A call of `open_grid`, with what it meets. -/
structure OpenGridCall where
  /-- The direction and the parameters of the decision. -/
  direction : GridDirection
  parameters : Option FuturesGridParameters
  /-- The `margin_mode` of the parameters. -/
  marginMode : MarginMode := .isolated
  symbol : Symbol
  strategyName : String
  account : AccountEligibility
  snapshot : GridPortfolioSnapshot
  currentPrice : ℚ
  liquidityUsd : Option ℚ := none
  fundingRateAnnualizedPct : Option ℚ := none
  volatilityAtrPct : Option ℚ := none
  directionalExposureUsd : Option ℚ := none
  /-- `_symbol_blocked` says no. -/
  isTradable : Bool := true
  /-- What the exchange answers about its position mode and its margin mode, if it does. -/
  hedged : Option Bool := none
  accountMarginMode : Option MarginMode := none
  id : UUID
  now : Timestamp := 0

/-- Why `open_grid` refuses. -/
inductive GridOpenRefusal
  | neutral
  | symbolKillSwitch
  | hedgeMode
  | marginMode (configured actual : MarginMode)
  | capability (reason : String)
  | compliance (result : ComplianceCheckResult)
  | risk (reason : Option GridRejection)
  deriving DecidableEq, Repr

/-- `compliance_status`. -/
def GridOpenRefusal.complianceStatus : GridOpenRefusal → Option String
  | neutral => none
  | symbolKillSwitch => some "symbol_kill_switch_active"
  | hedgeMode => some "hedge_mode_unsupported"
  | marginMode _ _ => some "margin_mode_mismatch"
  | capability _ => some "exchange_capability_missing"
  | compliance result => some result.status.value
  | risk _ => none

/-- What the exchange has to offer for a parameter set. -/
def FuturesGridParameters.needs (p : FuturesGridParameters) : CapabilityNeeds where
  long := p.longOrShort = .long
  short := p.longOrShort = .short
  leverage := 1 < p.leverage

namespace OpenGridCall

variable (cfg : GridAdmission) (c : OpenGridCall) (p : FuturesGridParameters)

/-- The proposal for the risk engine. -/
def proposal : GridProposal where
  parameters := p
  currentPrice := c.currentPrice
  liquidityUsd := c.liquidityUsd
  fundingRateAnnualizedPct := c.fundingRateAnnualizedPct
  volatilityAtrPct := c.volatilityAtrPct
  directionalExposureUsd := c.directionalExposureUsd

/-- The modes of a LIVE account that do not fit. -/
def modeRefusal : Option GridOpenRefusal :=
  if cfg.tradingMode = .live then
    if c.hedged = some true then some .hedgeMode
    else
      match c.accountMarginMode with
      | some actual =>
          if actual ≠ c.marginMode then some (.marginMode c.marginMode actual) else none
      | none => none
  else none

/-- The first objection to a parameter set. -/
def refusal : Option GridOpenRefusal :=
  if !c.isTradable then some .symbolKillSwitch
  else
    c.modeRefusal cfg <|>
      (checkCapability c.symbol.exchange .futuresGrid p.needs).map .capability <|>
      (let result := cfg.compliance.check c.account c.symbol.exchange .futuresGrid p.needs
        if !result.allowed then some (.compliance result) else none) <|>
      let assessment :=
        cfg.limits.evaluateNewGrid cfg.ratioPower cfg.costs c.snapshot (c.proposal p)
      if !assessment.approved then some (.risk assessment.reason) else none

/-- The grid that is built. -/
def grid : GridState :=
  buildGridState
    { id := c.id
      symbol := c.symbol
      strategyName := c.strategyName
      tradingMode := cfg.tradingMode
      direction := p.longOrShort
      parameters := p.stored
      prices := p.computeLevels cfg.ratioPower
      currentPrice := c.currentPrice
      openedAt := c.now }

/-- `open_grid`. -/
def openGrid : Except GridOpenRefusal GridState :=
  if c.direction = .neutral then .error .neutral
  else
    match c.parameters with
    | none => .error .neutral
    | some p =>
        match c.refusal cfg p with
        | some refusal => .error refusal
        | none => .ok (c.grid cfg p)

end OpenGridCall

/-! ### When a grid is opened -/

/-- Nothing objects to a parameter set. -/
structure OpenGridCall.Admitted (cfg : GridAdmission) (c : OpenGridCall)
    (p : FuturesGridParameters) : Prop where
  tradable : c.isTradable = true
  oneWay : cfg.tradingMode = .live → c.hedged ≠ some true
  marginMode : cfg.tradingMode = .live → ∀ actual ∈ c.accountMarginMode, actual = c.marginMode
  offered : checkCapability c.symbol.exchange .futuresGrid p.needs = none
  allowed : (cfg.compliance.check c.account c.symbol.exchange .futuresGrid p.needs).allowed = true
  approved : (cfg.limits.evaluateNewGrid cfg.ratioPower cfg.costs c.snapshot
    (c.proposal p)).approved = true

section Admission

variable {cfg : GridAdmission} {c : OpenGridCall} {p : FuturesGridParameters} {g : GridState}

theorem modeRefusal_eq_none_iff :
    c.modeRefusal cfg = none ↔
      (cfg.tradingMode = .live → c.hedged ≠ some true) ∧
        (cfg.tradingMode = .live → ∀ actual ∈ c.accountMarginMode, actual = c.marginMode) := by
  unfold OpenGridCall.modeRefusal
  split
  next hlive =>
    split
    next hhedged => simp [hlive, hhedged]
    next hhedged =>
      split
      next actual hactual => simp [hlive, hhedged, hactual]
      next hnone => simp [hlive, hhedged, hnone]
  next hlive => simp [hlive]

theorem refusal_eq_none_iff : c.refusal cfg p = none ↔ c.Admitted cfg p := by
  unfold OpenGridCall.refusal
  split
  next hblocked =>
    exact iff_of_false (by simp) fun h => by simp [h.tradable] at hblocked
  next htradable =>
    simp only [Option.orElse_eq_none, modeRefusal_eq_none_iff, Option.map_eq_none_iff,
      ite_eq_right_iff, reduceCtorEq, imp_false, Bool.not_eq_true', Bool.not_eq_false]
    constructor
    · rintro ⟨⟨honeWay, hmargin⟩, hoffered, hallowed, happroved⟩
      exact ⟨by simpa using htradable, honeWay, hmargin, hoffered, hallowed, happroved⟩
    · intro h
      exact ⟨⟨h.oneWay, h.marginMode⟩, h.offered, h.allowed, h.approved⟩

/-- A grid is opened for a decision that is not neutral and that nothing objects to. -/
theorem openGrid_eq_ok_iff :
    c.openGrid cfg = .ok g ↔ c.direction ≠ .neutral ∧
      ∃ p ∈ c.parameters, c.Admitted cfg p ∧ c.grid cfg p = g := by
  unfold OpenGridCall.openGrid
  split
  next hneutral => simp [hneutral]
  next hdirection =>
    split
    next hnone => simp [hnone]
    next p hp =>
      rw [hp]
      split
      next refusal hrefusal =>
        refine iff_of_false (by simp) ?_
        rintro ⟨-, q, hq, hadmitted, -⟩
        cases hq
        rw [refusal_eq_none_iff.2 hadmitted] at hrefusal
        cases hrefusal
      next hrefusal =>
        have hadmitted := refusal_eq_none_iff.1 hrefusal
        simp [hdirection, hadmitted]

end Admission

end Sgr
