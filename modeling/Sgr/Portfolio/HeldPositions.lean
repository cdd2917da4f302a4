import Sgr.Portfolio.Tasks

/-!
# What holds of every held position

A property of positions that opening, protecting, re-pricing and reducing keep is kept by
every segment of the handlers, of the positions that the engine holds and of those that a
handler has yet to write.
-/

open Collection

namespace Sgr

/-- A property of positions that the handlers keep, as long as their fills are of a kind. -/
structure KeptByBooking (cfg : PortfolioConfig) (ok : FillCall → Prop)
    (φ : Position → Prop) : Prop where
  opened : ∀ f price, ok f → acceptedPrice f.result = some price →
    φ (openedPosition cfg f price)
  attached : ∀ f p q, φ p → protectedPosition cfg f p = some q → φ q
  repriced : ∀ p price, φ p → φ (repriced p price)
  reduced : ∀ p q, φ p → φ (reducedPosition p q)

/-- The property holds of every position that the engine holds. -/
def HoldsOfAll (φ : Position → Prop) (s : PortfolioState) : Prop :=
  ∀ key p, s.positions.get? key = some p → φ p

/-- The property holds of the positions that a handler has yet to write. -/
structure HoldsOfPending (cfg : PortfolioConfig) (φ : Position → Prop)
    (pc : PortfolioPc) : Prop where
  protection : ∀ w ∈ pendingProtection cfg pc, φ w.2.2
  close : ∀ w ∈ pendingClose pc, φ w.2.1

variable {cfg : PortfolioConfig} {φ : Position → Prop}

/-- Nothing is pending. -/
theorem HoldsOfPending.of_none {pc : PortfolioPc} (hprotection : pendingProtection cfg pc = none)
    (hclose : pendingClose pc = none) : HoldsOfPending cfg φ pc where
  protection w hw := by
    rw [hprotection] at hw
    cases hw
  close w hw := by
    rw [hclose] at hw
    cases hw

namespace HoldsOfAll

variable {s t : PortfolioState}

theorem congr (h : HoldsOfAll φ s) (hpositions : t.positions = s.positions) :
    HoldsOfAll φ t := by
  intro key p hp
  rw [hpositions] at hp
  exact h key p hp

/-- A written slot has the property if what is written has it. -/
theorem stores (h : HoldsOfAll φ s) {key : String} {v : Option Position}
    (hstores : Stores s t key v) (hv : ∀ p ∈ v, φ p) : HoldsOfAll φ t := by
  intro key' p hp
  rw [hstores key'] at hp
  split at hp
  · exact hv p hp
  · exact h key' p hp

theorem atPrices (h : HoldsOfAll φ s) (hφ : ∀ p price, φ p → φ (repriced p price))
    (prices : String → Option ℚ) : HoldsOfAll φ (updatePrices prices s) := by
  intro key p hp
  rw [get?_updatePrices] at hp
  obtain ⟨q, hq, rfl⟩ := Option.map_eq_some_iff.1 hp
  unfold Position.atPrices
  cases prices q.symbol.ccxtSymbol with
  | none => exact h key q hq
  | some price => exact hφ q price (h key q hq)

theorem of_mem_values (h : HoldsOfAll φ s) {p : Position} (hp : p ∈ s.positions.values) :
    φ p := by
  obtain ⟨key, hget⟩ := (s.positions.mem_values_iff p).1 hp
  exact h key p hget

end HoldsOfAll

/-- One segment keeps the property. -/
theorem KeptByBooking.step {ok : FillCall → Prop} (hφ : KeptByBooking cfg ok φ)
    {job : PortfolioJob} {s t : PortfolioState} {pc pc' : PortfolioPc}
    (hjob : ∀ f, job = .fill f → ok f) (hs : HoldsOfAll φ s)
    (hpc : HoldsOfPending cfg φ pc) (hstep : PortfolioStep cfg job s pc t pc') :
    HoldsOfAll φ t ∧ HoldsOfPending cfg φ pc' := by
  cases hstep with
  | ignored => exact ⟨hs, .of_none rfl rfl⟩
  | sameSide => exact ⟨hs.congr (s.updatePeak_positions), .of_none rfl rfl⟩
  | dropped => exact ⟨hs.congr rfl, .of_none rfl rfl⟩
  | @opened f price hfill hprice hget hretired =>
      have hopened := hφ.opened f price (hjob f hfill) hprice
      refine ⟨hs.stores (writes_bookOpen cfg f price s).stores ?_, ?_, ?_⟩
      · rintro p ⟨⟩
        exact hopened
      · intro w hw
        obtain ⟨q, hq, rfl⟩ := Option.map_eq_some_iff.1 hw
        exact hφ.attached f _ q hopened hq
      · rintro w ⟨⟩
  | @read f price existing hfill hprice hget hside =>
      refine ⟨hs.congr rfl, ⟨?_, ?_⟩⟩
      · rintro w ⟨⟩
      · rintro w ⟨⟩
        exact hs f.key existing hget
  | @repriced prices => exact ⟨hs.atPrices hφ.repriced prices, .of_none rfl rfl⟩
  | continued hbooks heffective heffective' hraised hprotection hclose hclose' =>
      refine ⟨hs.congr hbooks.positions, ?_, ?_⟩
      · rw [hprotection]
        exact hpc.protection
      · rw [hclose']
        rintro w ⟨⟩
  | @attached f opened q hq =>
      have hpending : pendingProtection cfg (.filling (.protecting f opened)) =
          some (f, opened, q) := by
        rw [pendingProtection, hq, Option.map_some]
      refine ⟨hs.stores (Dict.get?_set s.positions f.key · _) ?_, .of_none rfl rfl⟩
      rintro p ⟨⟩
      exact hpc.protection _ hpending
  | raised => exact ⟨hs, .of_none rfl rfl⟩
  | closed hbook hfull =>
      refine ⟨hs.stores (stores_bookClose hbook) ?_, .of_none rfl rfl⟩
      rw [CloseQuote.left, if_pos hfull]
      rintro p ⟨⟩
  | @reduced f existing q t hbook hnot =>
      refine ⟨hs.stores (stores_bookClose hbook) ?_, .of_none rfl rfl⟩
      rw [CloseQuote.left, if_neg hnot]
      rintro p ⟨⟩
      exact hφ.reduced existing q (hpc.close _ rfl)
  | retired hbooks hpc' =>
      refine ⟨hs.congr hbooks.positions, ?_⟩
      rcases hpc' with rfl | rfl
      · exact .of_none rfl rfl
      · exact .of_none rfl rfl

end Sgr
