import Mathlib.Data.Option.Basic
import Sgr.Collection.Dict
import Sgr.Core.Types

/-!
# Who may trade which product where

`check_capability` of `sgr/exchanges/capabilities.py` says what an exchange offers, and
`ComplianceEngine` of `sgr/compliance/engine.py` what an account is allowed to trade there. Nothing
is allowed without a rule that an operator has registered, and it is the last rule for the exchange
and the product that counts.
-/

open Collection

namespace Sgr

/-- `ProductType`. -/
inductive ProductType
  | spot
  | perpetual
  | futuresGrid
  | spotGrid
  deriving DecidableEq, Repr

/-- The value of a product type. -/
def ProductType.value : ProductType → String
  | spot => "spot"
  | perpetual => "perpetual"
  | futuresGrid => "futures_grid"
  | spotGrid => "spot_grid"

/-! ### What an exchange offers -/

/-- The fields of `ExchangeCapability` that a check reads. -/
structure ExchangeCapability where
  supportsLong : Bool
  supportsShort : Bool
  supportsLeverage : Bool
  deriving DecidableEq, Repr

/-- `get_capability`, on the table `_CAPABILITIES`. -/
def getCapability : ExchangeID → ProductType → Option ExchangeCapability
  | .binance, .spot => some ⟨true, false, false⟩
  | .binance, .perpetual => some ⟨true, true, true⟩
  | .binance, .futuresGrid => some ⟨true, true, true⟩
  | .pionex, .spot => some ⟨true, false, false⟩
  | .pionex, .perpetual => some ⟨true, true, true⟩
  | .pionex, .futuresGrid => some ⟨true, true, true⟩
  | _, _ => none

/-- What an order of a product needs. -/
structure CapabilityNeeds where
  long : Bool := false
  short : Bool := false
  leverage : Bool := false
  deriving DecidableEq, Repr

/-- `missing`. -/
def ExchangeCapability.missing (c : ExchangeCapability) (needs : CapabilityNeeds) : List String :=
  (if needs.long && !c.supportsLong then ["long"] else []) ++
    (if needs.short && !c.supportsShort then ["short"] else []) ++
      if needs.leverage && !c.supportsLeverage then ["leverage"] else []

/-- `check_capability`; `none` is `OK`, and else it is the reason. -/
def checkCapability (exchange : ExchangeID) (product : ProductType) (needs : CapabilityNeeds) :
    Option String :=
  match getCapability exchange product with
  | none => some (exchange.value ++ " bietet ProductType " ++ product.value ++ " nicht an.")
  | some c =>
      if c.missing needs = [] then none
      else some (exchange.value ++ "/" ++ product.value ++ " unterstuetzt nicht: " ++
        ", ".intercalate (c.missing needs))

/-! ### What an account may trade -/

/-- `ComplianceStatus`. -/
inductive ComplianceStatus
  | eligible
  | productNotAvailable
  | jurisdictionRestricted
  | accountNotEligible
  | exchangeCapabilityMissing
  | complianceCheckRequired
  deriving DecidableEq, Repr

/-- The value of a status. -/
def ComplianceStatus.value : ComplianceStatus → String
  | eligible => "eligible"
  | productNotAvailable => "product_not_available"
  | jurisdictionRestricted => "jurisdiction_restricted"
  | accountNotEligible => "account_not_eligible"
  | exchangeCapabilityMissing => "exchange_capability_missing"
  | complianceCheckRequired => "compliance_check_required"

/-- The fields of `AccountEligibility` that a check reads. -/
structure AccountEligibility where
  jurisdiction : Option String := none
  kycVerified : Bool := false
  futuresTradingEnabled : Bool := false
  riskDisclosureAcknowledged : Bool := false
  enabledProductTypes : List String := [ProductType.spot.value]
  deriving DecidableEq, Repr

/-- `ProductAvailabilityRule`; without a list it covers all jurisdictions. -/
structure ProductAvailabilityRule where
  exchange : ExchangeID
  productType : ProductType
  jurisdictionsAllowed : Option (List String) := none
  requiresManualApproval : Bool := false
  deriving DecidableEq, Repr

/-- The key of a rule in `_rules`. -/
def ProductAvailabilityRule.key (r : ProductAvailabilityRule) : ExchangeID × ProductType :=
  (r.exchange, r.productType)

/-- `ComplianceCheckResult`, without the exchange and the product that it repeats. -/
structure ComplianceCheckResult where
  status : ComplianceStatus
  allowed : Bool
  reason : String
  deriving DecidableEq, Repr

/-- Why a check refuses. -/
abbrev ComplianceRefusal := ComplianceStatus × String

/-- The result of a check that has, or has not, found a reason to refuse. -/
def ComplianceCheckResult.of : Option ComplianceRefusal → ComplianceCheckResult
  | none => ⟨.eligible, true, ""⟩
  | some (status, reason) => ⟨status, false, reason⟩

/-- A condition that refuses. -/
def refuseIf (violated : Prop) [Decidable violated] (status : ComplianceStatus) (reason : String) :
    Option ComplianceRefusal :=
  if violated then some (status, reason) else none

/-- `ComplianceEngine`. -/
structure ComplianceEngine where
  rules : Dict (ExchangeID × ProductType) ProductAvailabilityRule

namespace ComplianceEngine

/-- A new engine. -/
def init : ComplianceEngine := ⟨.empty⟩

/-- `register_rule`. -/
def registerRule (engine : ComplianceEngine) (rule : ProductAvailabilityRule) : ComplianceEngine :=
  ⟨engine.rules.set rule.key rule⟩

/-- The engine after some registrations. -/
def afterRules (rules : List ProductAvailabilityRule) : ComplianceEngine :=
  rules.foldl registerRule init

end ComplianceEngine

/-- The product is one of those that the futures flag of an account is for. -/
def ProductType.isLeveraged : ProductType → Bool
  | perpetual | futuresGrid => true
  | spot | spotGrid => false

/-- The jurisdiction of an account under a rule. -/
def ProductAvailabilityRule.jurisdictionRefusal (rule : ProductAvailabilityRule)
    (account : AccountEligibility) (exchange : ExchangeID) (product : ProductType) :
    Option ComplianceRefusal :=
  match rule.jurisdictionsAllowed, account.jurisdiction with
  | none, _ => none
  | some _, none =>
      some (.complianceCheckRequired,
        "Jurisdiktion des Tenants ist nicht erfasst - Freigabe kann " ++
          "nicht geprueft werden (keine implizite Freigabe).")
  | some allowed, some jurisdiction =>
      refuseIf (jurisdiction ∉ allowed) .jurisdictionRestricted
        (product.value ++ " auf " ++ exchange.value ++ " ist fuer Jurisdiktion " ++
          jurisdiction ++ " nicht freigegeben.")

/-- The part of `check` that looks at the rule. -/
def ProductAvailabilityRule.refusal (rule : ProductAvailabilityRule) (account : AccountEligibility)
    (exchange : ExchangeID) (product : ProductType) : Option ComplianceRefusal :=
  rule.jurisdictionRefusal account exchange product <|>
    refuseIf (rule.requiresManualApproval && !account.riskDisclosureAcknowledged)
      .complianceCheckRequired
      (product.value ++ " auf " ++ exchange.value ++ " erfordert eine manuelle " ++
        "Freigabe/Risikoaufklaerungs-Bestaetigung, die fuer diesen Tenant " ++
          "noch nicht vorliegt.")

/-- The part of `check` that looks at the account. -/
def AccountEligibility.refusal (account : AccountEligibility) (product : ProductType) :
    Option ComplianceRefusal :=
  refuseIf (!account.kycVerified) .accountNotEligible "KYC nicht verifiziert." <|>
    refuseIf (product.isLeveraged && !account.futuresTradingEnabled) .accountNotEligible
      ("Futures-Trading ist fuer diesen Tenant nicht explizit " ++
        "aktiviert (futures_trading_enabled=False).") <|>
    refuseIf (product.isLeveraged && !account.riskDisclosureAcknowledged) .accountNotEligible
      "Risikoaufklaerung fuer gehebelte Produkte nicht bestaetigt." <|>
    refuseIf (product.value ∉ account.enabledProductTypes) .accountNotEligible
      ("ProductType " ++ product.value ++ " ist fuer diesen Tenant nicht aktiviert.")

/-- The first reason of `check` to refuse. -/
def ComplianceEngine.refusal (engine : ComplianceEngine) (account : AccountEligibility)
    (exchange : ExchangeID) (product : ProductType) (needs : CapabilityNeeds) :
    Option ComplianceRefusal :=
  match checkCapability exchange product needs with
  | some reason => some (.exchangeCapabilityMissing, reason)
  | none =>
      match engine.rules.get? (exchange, product) with
      | none =>
          some (.productNotAvailable,
            "Keine ProductAvailabilityRule fuer " ++ exchange.value ++ "/" ++ product.value ++
              " registriert - Deny-by-default. SGR trifft " ++
                "keine Annahme ueber regulatorische Zulaessigkeit.")
      | some rule => rule.refusal account exchange product <|> account.refusal product

/-- `check`. -/
def ComplianceEngine.check (engine : ComplianceEngine) (account : AccountEligibility)
    (exchange : ExchangeID) (product : ProductType) (needs : CapabilityNeeds) :
    ComplianceCheckResult :=
  .of (engine.refusal account exchange product needs)

/-! ### When a product is allowed -/

/-- A rule covers an account. -/
structure ProductAvailabilityRule.Covers (rule : ProductAvailabilityRule)
    (account : AccountEligibility) : Prop where
  jurisdiction : ∀ allowed ∈ rule.jurisdictionsAllowed, ∃ j ∈ account.jurisdiction, j ∈ allowed
  manualApproval : rule.requiresManualApproval = true → account.riskDisclosureAcknowledged = true

/-- An account is eligible for a product. -/
structure AccountEligibility.EligibleFor (account : AccountEligibility) (product : ProductType) :
    Prop where
  kyc : account.kycVerified = true
  futures : product.isLeveraged = true → account.futuresTradingEnabled = true
  disclosure : product.isLeveraged = true → account.riskDisclosureAcknowledged = true
  enabled : product.value ∈ account.enabledProductTypes

section Check

variable {rule : ProductAvailabilityRule} {account : AccountEligibility} {exchange : ExchangeID}
  {product : ProductType} {needs : CapabilityNeeds} {rules : List ProductAvailabilityRule}

@[simp] theorem refuseIf_eq_none_iff {violated : Prop} [Decidable violated]
    {status : ComplianceStatus} {reason : String} :
    refuseIf violated status reason = none ↔ ¬ violated := by
  simp [refuseIf]

@[simp] theorem ComplianceCheckResult.allowed_of {refusal : Option ComplianceRefusal} :
    (ComplianceCheckResult.of refusal).allowed = true ↔ refusal = none := by
  cases refusal <;> simp [ComplianceCheckResult.of]

theorem ProductAvailabilityRule.jurisdictionRefusal_eq_none_iff :
    rule.jurisdictionRefusal account exchange product = none ↔
      ∀ allowed ∈ rule.jurisdictionsAllowed, ∃ j ∈ account.jurisdiction, j ∈ allowed := by
  unfold jurisdictionRefusal
  split
  next hall => simp [hall]
  next allowed hallowed hj => simp [hallowed, hj]
  next allowed j hallowed hj => simp [hallowed, hj]

theorem ProductAvailabilityRule.refusal_eq_none_iff :
    rule.refusal account exchange product = none ↔ rule.Covers account := by
  rw [refusal, Option.orElse_eq_none, jurisdictionRefusal_eq_none_iff, refuseIf_eq_none_iff]
  exact ⟨fun ⟨hjurisdiction, hmanual⟩ => ⟨hjurisdiction, by simpa using hmanual⟩,
    fun h => ⟨h.jurisdiction, by simpa using h.manualApproval⟩⟩

theorem AccountEligibility.refusal_eq_none_iff :
    account.refusal product = none ↔ account.EligibleFor product := by
  simp only [refusal, Option.orElse_eq_none, refuseIf_eq_none_iff, Bool.not_eq_true',
    Bool.and_eq_true, not_and, Bool.not_eq_false, not_not]
  exact ⟨fun ⟨hkyc, hfutures, hdisclosure, henabled⟩ => ⟨hkyc, hfutures, hdisclosure, henabled⟩,
    fun h => ⟨h.kyc, h.futures, h.disclosure, h.enabled⟩⟩

/-- The last rule that has been registered for a key. -/
def lastRule (rules : List ProductAvailabilityRule) (key : ExchangeID × ProductType) :
    Option ProductAvailabilityRule :=
  rules.reverse.find? fun rule => rule.key = key

theorem ComplianceEngine.get?_afterRules (key : ExchangeID × ProductType) :
    (afterRules rules).rules.get? key = lastRule rules key := by
  have hrules (engine : ComplianceEngine) : (rules.foldl registerRule engine).rules =
      rules.foldl (fun d rule => d.set rule.key rule) engine.rules := by
    induction rules generalizing engine with
    | nil => rfl
    | cons rule rules ih => exact ih (engine.registerRule rule)
  rw [afterRules, hrules, Dict.get?_foldl_set_key]
  exact Option.or_none

/-- What is allowed after some registrations. -/
theorem ComplianceEngine.allowed_check_iff :
    ((afterRules rules).check account exchange product needs).allowed = true ↔
      checkCapability exchange product needs = none ∧
        (∃ rule ∈ lastRule rules (exchange, product), rule.Covers account) ∧
          account.EligibleFor product := by
  rw [check, ComplianceCheckResult.allowed_of, refusal, get?_afterRules]
  cases checkCapability exchange product needs with
  | some reason => simp
  | none =>
      cases lastRule rules (exchange, product) with
      | none => simp
      | some rule =>
          rw [Option.orElse_eq_none, ProductAvailabilityRule.refusal_eq_none_iff,
            AccountEligibility.refusal_eq_none_iff]
          simp

end Check

end Sgr
