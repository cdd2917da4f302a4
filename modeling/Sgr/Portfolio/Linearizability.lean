import Mathlib.Data.Fintype.Basic
import Sgr.Portfolio.Simulation

/-!
# Concurrent calls and serial orders

When no call writes what another has read and not yet written, the calls of a run
behave as if they ran one after the other.
-/

open Collection Concurrency

namespace Sgr

variable {ι : Type*} [DecidableEq ι]

/-- The calls of this order, one after the other. -/
def serialRun (cfg : PortfolioConfig) (job : ι → PortfolioJob) (order : List ι)
    (s : PortfolioState) : Option PortfolioState :=
  order.foldl (fun o i => o.bind (serial cfg (job i))) (some s)

/-- The two engines hold the same positions, cash and entry fees. -/
structure SameHoldings (s t : PortfolioState) : Prop where
  positions : ∀ key, s.positions.get? key = t.positions.get? key
  cash : s.cash = t.cash
  entryFees : ∀ key, s.entryFees.get? key = t.entryFees.get? key

/-- No call has raised, and once all calls that started have finished, the engine holds
what it holds after the same calls in some order, one after the other. -/
def Serializable (cfg : PortfolioConfig) (job : ι → PortfolioJob) (s : PortfolioState)
    (P : PortfolioPool ι) : Prop :=
  (∀ i, (P.task i).hasRaised = false) ∧
    ((∀ i, P.task i = .idle ∨ (P.task i).Finished) →
      ∃ order : List ι, order.Nodup ∧ (∀ i, i ∈ order ↔ P.task i ≠ .idle) ∧
        ∃ t, serialRun cfg job order s = some t ∧ SameHoldings P.shared t)

omit [DecidableEq ι] in
theorem simulates_portfolioStart (cfg : PortfolioConfig) (s : PortfolioState) :
    Simulates (ι := ι) cfg (portfolioStart s) s where
  cash := rfl
  entryFees _ := rfl
  retired id := by
    constructor
    · exact .inl
    · rintro (hid | ⟨j, e, he, -⟩)
      · exact hid
      · cases he
  protecting _ _ hw := by cases hw
  settled _ _ := rfl
  unique _ _ _ _ hw := by cases hw
  closing _ _ hw := by cases hw
  notRaised _ := rfl

theorem PortfolioPc.Finished.pendingProtection {cfg : PortfolioConfig} {pc : PortfolioPc}
    (h : pc.Finished) : pendingProtection cfg pc = none := by
  unfold PortfolioPc.Finished at h
  split at h
  · rfl
  · rfl
  · rfl
  · cases h

theorem PortfolioPc.Finished.effective {pc : PortfolioPc} (h : pc.Finished) :
    pc.Effective := by
  unfold PortfolioPc.Finished at h
  split at h
  · trivial
  · trivial
  · trivial
  · cases h

omit [DecidableEq ι] in
/-- When all calls have finished, the two engines hold the same. -/
theorem Simulates.sameHoldings {cfg : PortfolioConfig} {P : PortfolioPool ι}
    {s : PortfolioState} (h : Simulates cfg P s)
    (hdone : ∀ i, P.task i = .idle ∨ (P.task i).Finished) : SameHoldings P.shared s where
  positions key := by
    refine (h.settled key fun j w hw => ?_).symm
    rcases hdone j with hidle | hfinished
    · rw [hidle] at hw
      cases hw
    · rw [hfinished.pendingProtection] at hw
      cases hw
  cash := h.cash.symm
  entryFees key := (h.entryFees key).symm

instance [Fintype ι] (cfg : PortfolioConfig) (job : ι → PortfolioJob)
    (P : PortfolioPool ι) (a : ι × Unit) : Decidable (Undisturbed cfg job P a) := by
  unfold Undisturbed
  split <;> infer_instance

/-- Calls of which none is disturbed by another behave as if they ran one after the
other, and no fill raises. -/
theorem serializable_of_undisturbed (cfg : PortfolioConfig) (job : ι → PortfolioJob)
    (s : PortfolioState) {as : List (ι × Unit)} {P : PortfolioPool ι}
    (hok : (portfolioMachine cfg job).Guarded (Undisturbed cfg job) (portfolioStart s) as)
    (hrun : (portfolioMachine cfg job).run (portfolioStart s) as = some P) :
    Serializable cfg job s P := by
  -- the relation of the simulation, with a serial engine that has not raised
  let R (P : PortfolioPool ι) (o : Option PortfolioState) : Prop :=
    (∃ t, o = some t ∧ Simulates cfg P t) ∧ Owned job P
  have hstart : R (portfolioStart s) (some s) :=
    ⟨⟨s, rfl, simulates_portfolioStart cfg s⟩, fun j w hw => by cases hw⟩
  have hstep : ∀ P a Q o, R P o → Undisturbed cfg job P a →
      (portfolioMachine cfg job).next P a = some Q →
      (R Q o ∧ ∀ j, (Q.task j).Effective ↔ (P.task j).Effective) ∨
        ∃ i, ¬ (P.task i).Effective ∧ R Q (o.bind (serial cfg (job i))) ∧
          ∀ j, (Q.task j).Effective ↔ (P.task j).Effective ∨ j = i := by
    rintro P a Q o ⟨⟨t, rfl, hsim⟩, howned⟩ hoka hnext
    rcases hsim.step howned hoka hnext with ⟨hsim', heq⟩ | ⟨i, hi, ⟨u, hu, hsim'⟩, heq⟩
    · exact .inl ⟨⟨⟨t, rfl, hsim'⟩, howned.step hnext⟩, heq⟩
    · exact .inr ⟨i, hi, ⟨⟨u, hu, hsim'⟩, howned.step hnext⟩, heq⟩
  obtain ⟨order, hnodup, hmem, ⟨t, ht, hsim⟩, -⟩ :=
    Machine.exists_serial_order _ hstep hstart (fun i => id) hok hrun
  refine ⟨hsim.notRaised, fun hdone => ⟨order, hnodup, fun i => ?_, t, ht, ?_⟩⟩
  · rw [hmem]
    constructor
    · intro heff hidle
      rw [hidle] at heff
      exact heff
    · intro hbusy
      exact ((hdone i).resolve_left hbusy).effective
  · exact hsim.sameHoldings hdone

/-- An engine whose new positions are protected. -/
def protectedEngine : PortfolioConfig where
  tradingMode := .paper
  protection := some ⟨some 0, 1 / 100, 2 / 100, 60, 1 / 1000, 1 / 1000⟩

/-- A purchase, a price update and a sale of what was bought. -/
def roundTrip : Fin 3 → PortfolioJob
  | 0 => .fill (.btc 1 .buy 1 100)
  | 1 => .prices fun symbol => if symbol = "BTC/USDT" then some 105 else none
  | 2 => .fill (.btc 2 .sell 1 110)

theorem serializable_of_undisturbed_roundTrip :
    ∃ P, (portfolioMachine protectedEngine roundTrip).run (portfolioStart (.init 1000 none))
        (([0, 0, 2, 0, 1, 2, 0, 1, 2, 2] : List (Fin 3)).map (·, ())) = some P ∧
      Serializable protectedEngine roundTrip (.init 1000 none) P := by
  have hsome : ((portfolioMachine protectedEngine roundTrip).run
      (portfolioStart (.init 1000 none))
      (([0, 0, 2, 0, 1, 2, 0, 1, 2, 2] : List (Fin 3)).map (·, ()))).isSome = true := by
    decide +kernel
  obtain ⟨P, hrun⟩ := Option.isSome_iff_exists.1 hsome
  exact ⟨P, hrun, serializable_of_undisturbed _ _ _ (by decide +kernel) hrun⟩

/-- The two calls of the examples below, one of which opens the position. -/
def openAndClose : Bool → PortfolioJob
  | false => .fill (.btc 1 .buy 1 100)
  | true => .fill (.btc 2 .sell 1 110)

/-- Two closes of one position. -/
def closeTwice : Bool → PortfolioJob
  | _ => .fill (.btc 2 .sell 1 110)

theorem eq_of_nodup_of_mem {order : List Bool} (hnodup : order.Nodup)
    (hmem : ∀ i, i ∈ order) : order = [false, true] ∨ order = [true, false] := by
  have hperm : order.Perm [false, true] :=
    (List.perm_ext_iff_of_nodup hnodup (by decide)).2 fun i => by simp [hmem i]
  obtain ⟨a, b, rfl⟩ := List.length_eq_two.1 hperm.length_eq
  revert hnodup
  cases a <;> cases b <;> decide

/-- The hook of an open that a close has overtaken stores the position again, and of
two closes that both read the position the second raises. -/
theorem not_serializable :
    (¬ ∀ as P, (portfolioMachine protectedEngine openAndClose).run
        (portfolioStart (.init 1000 none)) as = some P →
      Serializable protectedEngine openAndClose (.init 1000 none) P) ∧
    ¬ ∀ as P, (portfolioMachine protectedEngine closeTwice).run
        (portfolioStart (bookOpen protectedEngine (.btc 1 .buy 1 100) 100 (.init 1000 none)))
          as = some P →
      Serializable protectedEngine closeTwice
        (bookOpen protectedEngine (.btc 1 .buy 1 100) 100 (.init 1000 none)) P := by
  constructor
  · intro h
    obtain ⟨P, hrun, hP⟩ := (Option.any_eq_true _ _).1 (show ((portfolioMachine protectedEngine
        openAndClose).run (portfolioStart (.init 1000 none))
        ([false, true, true, true, true, false, false, false].map (·, ()))).any
      (fun P => decide ((∀ i, (P.task i).Finished) ∧
        (P.shared.positions.get? btcUsdt.str).isSome)) = true by decide +kernel)
    obtain ⟨hdone, hheld⟩ := of_decide_eq_true hP
    obtain ⟨order, hnodup, hmem, t, ht, hholdings⟩ :=
      (h _ P hrun).2 fun i => .inr (hdone i)
    have hall : ∀ i, i ∈ order := by
      intro i
      refine (hmem i).2 fun hidle => ?_
      have hfinished := hdone i
      rw [hidle] at hfinished
      exact hfinished
    have hnone : (serialRun protectedEngine openAndClose order (.init 1000 none)).map
        (·.positions.get? btcUsdt.str) = some none := by
      rcases eq_of_nodup_of_mem hnodup hall with rfl | rfl
      · decide +kernel
      · decide +kernel
    rw [ht, Option.map_some, Option.some_inj, ← hholdings.positions] at hnone
    rw [hnone] at hheld
    cases hheld
  · intro h
    obtain ⟨P, hrun, hP⟩ := (Option.any_eq_true _ _).1 (show ((portfolioMachine protectedEngine
        closeTwice).run (portfolioStart (bookOpen protectedEngine (.btc 1 .buy 1 100) 100
          (.init 1000 none))) ([false, true, false, true].map (·, ()))).any
      (fun P => (P.task true).hasRaised) = true by decide +kernel)
    exact absurd (hP.symm.trans ((h _ P hrun).1 true)) (by decide)

end Sgr
