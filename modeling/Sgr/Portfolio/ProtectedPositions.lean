import Sgr.Portfolio.HeldPositions
import Sgr.Portfolio.Linearizability

/-!
# Positions that the hook protects

A position from the cutover on is stored without protection first; the hook's version follows
after two suspensions. A partial close that reads the first and writes after the second takes
the protection away for good. As long as no call disturbs another, every position whose hook is
through carries a stop, a target and a deadline in every state of a run.
-/

open Collection Concurrency

namespace Sgr

variable {ι : Type*} [DecidableEq ι]

/-- A position from the cutover on has a stop, a target and a deadline. -/
def Position.Shielded (cutover : Timestamp) (p : Position) : Prop :=
  cutover ≤ p.openedAt →
    p.stopLossPrice.isSome ∧ p.takeProfitPrice.isSome ∧ p.maxHoldingUntil.isSome

instance (cutover : Timestamp) (p : Position) : Decidable (p.Shielded cutover) := by
  unfold Position.Shielded
  infer_instance

section Serial

variable {cfg : PortfolioConfig} {limits : ProtectionLimits} {cutover : Timestamp}

/-- What the hook leaves of a new position. -/
theorem shielded_protectedPosition (hhook : cfg.protection = some limits)
    (hcutover : limits.protectionCutoverAt = some cutover) (f : FillCall) (p : Position) :
    ((protectedPosition cfg f p).getD p).Shielded cutover := by
  rw [protectedPosition, hhook, Option.bind_some, onPositionOpened, hcutover]
  dsimp only
  intro hopened
  split at hopened
  next hbefore => exact absurd hbefore (not_lt.2 hopened)
  next hafter =>
    rw [if_neg hafter]
    exact ⟨rfl, rfl, rfl⟩

/-- A call that is not interrupted leaves every position protected. -/
theorem shielded_serial (hhook : cfg.protection = some limits)
    (hcutover : limits.protectionCutoverAt = some cutover) (job : PortfolioJob)
    {s t : PortfolioState} (hs : HoldsOfAll (Position.Shielded cutover) s)
    (h : serial cfg job s = some t) : HoldsOfAll (Position.Shielded cutover) t := by
  cases job with
  | prices prices =>
      cases h
      exact hs.atPrices (fun _ _ hp => hp) prices
  | fill f =>
      rw [serial, onOrderFilled] at h
      split at h
      · cases h
        exact hs
      next price hprice =>
        split at h
        · split at h
          · cases h
            exact hs.congr rfl
          · cases h
            refine HoldsOfAll.congr ?_ (PortfolioState.updatePeak_positions _)
            refine hs.stores (writes_openPosition cfg f price s).stores ?_
            rintro p ⟨⟩
            exact shielded_protectedPosition hhook hcutover f _
        next existing hget =>
          obtain ⟨u, hu, rfl⟩ := Option.map_eq_some_iff.1 h
          refine HoldsOfAll.congr ?_ (PortfolioState.updatePeak_positions _)
          unfold updatePosition at hu
          split at hu
          · obtain ⟨v, hv, rfl⟩ := Option.map_eq_some_iff.1 hu
            have hclosed : HoldsOfAll (Position.Shielded cutover) v := by
              have hrecorded : HoldsOfAll (Position.Shielded cutover)
                  (recordTrade cfg existing (closeQuote existing f price s) f s) := hs.congr rfl
              refine hrecorded.stores (stores_bookClose hv) fun p hp => ?_
              unfold CloseQuote.left at hp
              split at hp
              · cases hp
              · cases hp
                exact hs f.key existing hget
            split
            · exact hclosed.congr rfl
            · exact hclosed
          · cases hu
            exact hs

end Serial

/-- A purchase, a price update and a sale of half of what was bought, one after the other. -/
def buyThenSellHalf : Fin 3 → PortfolioJob
  | 0 => .fill (.btc 1 .buy 1 100)
  | 1 => .prices fun _ => some 105
  | 2 => .fill (.btc 2 .sell (1 / 2) 110)

/-- A sale of a half that overlaps the hook leaves the rest without a stop. -/
theorem not_shielded_of_disturbed :
    ∃ P p, (portfolioMachine protectedEngine buyThenSellHalf).run (portfolioStart (.init 1000 none))
        (([0, 0, 2, 0, 2, 0, 2] : List (Fin 3)).map (·, ())) = some P ∧
      P.shared.positions.get? btcUsdt.str = some p ∧ ¬ p.Shielded 0 := by
  obtain ⟨P, hrun, hP⟩ := (Option.any_eq_true _ _).1 (show ((portfolioMachine protectedEngine
      buyThenSellHalf).run (portfolioStart (.init 1000 none))
      (([0, 0, 2, 0, 2, 0, 2] : List (Fin 3)).map (·, ()))).any
    (fun P => (P.shared.positions.get? btcUsdt.str).any fun p => decide (¬ p.Shielded 0)) = true
    by decide +kernel)
  obtain ⟨p, hget, hp⟩ := (Option.any_eq_true _ _).1 hP
  exact ⟨P, p, hrun, hget, of_decide_eq_true hp⟩

end Sgr
