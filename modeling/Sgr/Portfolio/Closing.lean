import Sgr.Portfolio.Tasks

/-!
# Closing a position with a fill

`on_order_filled` for a symbol that has an open position: nobody but the position of
that symbol is touched, and it is gone afterwards exactly when the fill is accepted, is
on the closing side and is at least as large as the position. That positions are kept under
the text of their symbol holds in every state that overlapping calls can reach.
-/

open Collection Concurrency

namespace Sgr

/-- The positions are kept under the text of their symbol. -/
def PortfolioState.Keyed (s : PortfolioState) : Prop :=
  ∀ key p, s.positions.get? key = some p → p.symbol.str = key

/-- The booking of the result closes the position. -/
structure ClosesWhole (p : Position) (r : OrderResult) : Prop where
  accepted : (acceptedPrice r).isSome = true
  closing : isClosing p (inferSide r) = true
  quantity : p.quantity ≤ r.filledQuantity

theorem ClosesWhole.status {p : Position} {r : OrderResult} (h : ClosesWhole p r) :
    r.status = .filled ∨ r.status = .partiallyFilled := by
  have haccepted := h.accepted
  unfold acceptedPrice at haccepted
  split at haccepted
  next => cases haccepted
  next hstatus => simpa only [not_and_or, not_not] using hstatus

/-- What the booking of a fill for the open position `p` does: it stores `v` in the slot
of the position. -/
structure BooksClose (p : Position) (f : FillCall) (s t : PortfolioState)
    (v : Option Position) : Prop where
  stores : Stores s t f.key v
  closes : v = none ↔ ClosesWhole p f.result
  symbol : ∀ q, v = some q → q.symbol = p.symbol

theorem Stores.updatePeak {s t : PortfolioState} {key : String} {v : Option Position}
    (h : Stores s t key v) : Stores s t.updatePeak key v := by
  intro key'
  rw [t.updatePeak_positions]
  exact h key'

theorem stores_self {s : PortfolioState} {key : String} {v : Option Position}
    (h : s.positions.get? key = v) : Stores s s key v := by
  intro key'
  by_cases hkey : key' = key
  · rw [if_pos hkey, hkey, h]
  · rw [if_neg hkey]

theorem BooksClose.unchanged {p : Position} {f : FillCall} {s : PortfolioState}
    (hget : s.positions.get? f.key = some p) (h : ¬ ClosesWhole p f.result) :
    BooksClose p f s s (some p) where
  stores := stores_self hget
  closes := by simp [h]
  symbol := by
    intro q hq
    rw [Option.some.inj hq]

theorem BooksClose.updatePeak {p : Position} {f : FillCall} {s t : PortfolioState}
    {v : Option Position} (h : BooksClose p f s t v) : BooksClose p f s t.updatePeak v :=
  ⟨h.stores.updatePeak, h.closes, h.symbol⟩

/-- A closing fill leaves what its quote leaves of the position. -/
theorem exists_updatePosition (cfg : PortfolioConfig) {p : Position} {f : FillCall}
    {s : PortfolioState} {price : ℚ} (hget : s.positions.get? f.key = some p)
    (hprice : acceptedPrice f.result = some price) :
    ∃ t v, updatePosition cfg p f price s = some t ∧ BooksClose p f s t v := by
  by_cases hclosing : isClosing p (inferSide f.result) = true
  · let q := closeQuote p f price s
    obtain ⟨t, ht, hwrites⟩ := writes_bookClose p q (s := recordTrade cfg p q f s) hget
    refine ⟨if q.full p then retire p t else t, q.left p, ?_, ?_, ?_, ?_⟩
    · rw [updatePosition, if_pos hclosing]
      change (bookClose p q f (recordTrade cfg p q f s)).map _ = _
      rw [ht, Option.map_some]
    · intro key
      have hkey := hwrites.stores key
      split
      · exact hkey
      · exact hkey
    · have hfull := full_closeQuote_iff p f price s
      unfold CloseQuote.left
      split
      next h =>
        have haccepted : (acceptedPrice f.result).isSome = true := by
          rw [hprice]
          rfl
        exact iff_of_true rfl ⟨haccepted, hclosing, hfull.1 h⟩
      next h =>
        have hnot : ¬ ClosesWhole p f.result := fun hcloses => h (hfull.2 hcloses.quantity)
        simp [hnot]
    · intro r hr
      unfold CloseQuote.left at hr
      split at hr
      · cases hr
      · cases hr
        rfl
  · refine ⟨s, some p, ?_, .unchanged hget fun h => hclosing h.closing⟩
    rw [updatePosition, if_neg hclosing]

/-- The booking of a fill for an open position does not raise. -/
theorem exists_onOrderFilled (cfg : PortfolioConfig) {p : Position} {f : FillCall}
    {s : PortfolioState} (hget : s.positions.get? f.key = some p) :
    ∃ t v, onOrderFilled cfg f s = some t ∧ BooksClose p f s t v := by
  unfold onOrderFilled
  cases hprice : acceptedPrice f.result with
  | none =>
      refine ⟨s, some p, rfl, .unchanged hget fun h => ?_⟩
      have haccepted := h.accepted
      rw [hprice] at haccepted
      cases haccepted
  | some price =>
      obtain ⟨t, v, ht, hbooks⟩ := exists_updatePosition cfg hget hprice
      refine ⟨t.updatePeak, v, ?_, hbooks.updatePeak⟩
      simp only [hget, ht, Option.map_some]

theorem keyed_init (cash : ℚ) (gate : Option LiveVerificationState) :
    (PortfolioState.init cash gate).Keyed := fun _ _ h => by cases h

theorem PortfolioState.Keyed.stores {s t : PortfolioState} (h : s.Keyed) {key : String}
    {v : Option Position} (hstores : Stores s t key v)
    (hv : ∀ p, v = some p → p.symbol.str = key) : t.Keyed := by
  intro key' p hget
  rw [hstores key'] at hget
  split at hget
  next heq => rw [hv p hget, heq]
  next => exact h key' p hget

/-- The handlers keep the positions under the text of their symbol. -/
theorem PortfolioState.Keyed.onOrderFilled {cfg : PortfolioConfig} {f : FillCall}
    {s t : PortfolioState} (h : s.Keyed) (hbook : onOrderFilled cfg f s = some t) :
    t.Keyed := by
  cases hget : s.positions.get? f.key with
  | some p =>
      obtain ⟨t', v, ht', hbooks⟩ := exists_onOrderFilled cfg hget
      obtain rfl := Option.some.inj (ht'.symm.trans hbook)
      apply h.stores hbooks.stores
      intro q hq
      rw [hbooks.symbol q hq, h f.key p hget]
  | none =>
      unfold Sgr.onOrderFilled at hbook
      split at hbook
      · cases hbook
        exact h
      next price hprice =>
        simp only [hget] at hbook
        split at hbook
        · cases hbook
          exact h
        · cases hbook
          apply h.stores (writes_openPosition cfg f price s).stores.updatePeak
          intro q hq
          obtain rfl := Option.some.inj hq
          cases hprotect : protectedPosition cfg f (openedPosition cfg f price) with
          | none => rfl
          | some q =>
              obtain ⟨hsymbol, -⟩ := protectedPosition_eq_some hprotect
              rw [Option.getD_some, hsymbol]
              rfl

theorem PortfolioState.Keyed.updatePrices {s : PortfolioState} (h : s.Keyed)
    (prices : String → Option ℚ) : (updatePrices prices s).Keyed := by
  intro key p hget
  rw [get?_updatePrices] at hget
  obtain ⟨q, hq, rfl⟩ := Option.map_eq_some_iff.1 hget
  rw [← h key q hq, Position.atPrices]
  cases prices q.symbol.ccxtSymbol <;> rfl

/-- A position that a call still works on is that of the symbol of its fill. -/
structure PendingKeyed (cfg : PortfolioConfig) (pc : PortfolioPc) : Prop where
  protection : ∀ f opened q, pendingProtection cfg pc = some (f, opened, q) →
    opened.symbol.str = f.key
  close : ∀ f existing q, pendingClose pc = some (f, existing, q) →
    existing.symbol.str = f.key

theorem PendingKeyed.of_none {cfg : PortfolioConfig} {pc : PortfolioPc}
    (hprotection : pendingProtection cfg pc = none) (hclose : pendingClose pc = none) :
    PendingKeyed cfg pc where
  protection := by
    intro f opened q h
    rw [hprotection] at h
    cases h
  close := by
    intro f existing q h
    rw [hclose] at h
    cases h

/-- What a step stores is a position of the symbol of its fill. -/
theorem PortfolioStep.keyed {cfg : PortfolioConfig} {job : PortfolioJob}
    {s t : PortfolioState} {pc pc' : PortfolioPc} (h : PortfolioStep cfg job s pc t pc')
    (hs : s.Keyed) (hpc : PendingKeyed cfg pc) : t.Keyed ∧ PendingKeyed cfg pc' := by
  have hsame : ∀ u : PortfolioState, u.positions = s.positions → u.Keyed := by
    intro u hu key p hget
    rw [hu] at hget
    exact hs key p hget
  have hbooked : ∀ f existing q u, pendingClose pc = some (f, existing, q) →
      bookClose existing q f s = some u → u.Keyed := by
    intro f existing q u hclose hbook
    apply hs.stores (stores_bookClose hbook)
    intro p hp
    unfold CloseQuote.left at hp
    split at hp
    · cases hp
    · cases hp
      exact hpc.close f existing q hclose
  cases h with
  | ignored => exact ⟨hs, .of_none rfl rfl⟩
  | sameSide => exact ⟨hsame _ s.updatePeak_positions, .of_none rfl rfl⟩
  | dropped => exact ⟨hsame _ rfl, .of_none rfl rfl⟩
  | @opened f price =>
      refine ⟨hs.stores (writes_bookOpen cfg f price s).stores ?_, ?_, ?_⟩
      · intro p hp
        obtain rfl := Option.some.inj hp
        rfl
      · intro f' opened q hpending
        obtain ⟨q', -, heq⟩ := Option.map_eq_some_iff.1 hpending
        cases heq
        rfl
      · intro f' existing q hclose
        cases hclose
  | @read f price existing hjob hprice hget =>
      refine ⟨hsame _ rfl, ?_, ?_⟩
      · intro f' opened q hpending
        cases hpending
      · intro f' existing' q hclose
        cases hclose
        exact hs f.key existing hget
  | repriced => exact ⟨hs.updatePrices _, .of_none rfl rfl⟩
  | continued hbooks _ _ _ hprotection hclose hclose' =>
      refine ⟨hsame _ hbooks.positions, ?_, ?_⟩
      · rw [hprotection]
        exact hpc.protection
      · intro f existing q hpending
        rw [hclose'] at hpending
        cases hpending
  | @attached f opened q hq =>
      refine ⟨hs.stores (fun key => Dict.get?_set s.positions f.key key q) ?_, .of_none rfl rfl⟩
      intro p hp
      obtain rfl := Option.some.inj hp
      obtain ⟨hsymbol, -⟩ := protectedPosition_eq_some hq
      rw [hsymbol]
      apply hpc.protection f opened q
      rw [pendingProtection, hq]
      rfl
  | raised => exact ⟨hs, .of_none rfl rfl⟩
  | closed hbook => exact ⟨hbooked _ _ _ _ rfl hbook, .of_none rfl rfl⟩
  | reduced hbook => exact ⟨hbooked _ _ _ _ rfl hbook, .of_none rfl rfl⟩
  | retired hbooks hpc' =>
      refine ⟨hsame _ hbooks.positions, ?_⟩
      rcases hpc' with rfl | rfl
      · exact .of_none rfl rfl
      · exact .of_none rfl rfl

/-- However calls overlap, the positions stay under the text of their symbol. -/
theorem keyed_of_run {ι : Type*} [DecidableEq ι] (cfg : PortfolioConfig)
    (job : ι → PortfolioJob) {s : PortfolioState} (hs : s.Keyed) {as : List (ι × Unit)}
    {P : Pool ι PortfolioState PortfolioPc}
    (hrun : (portfolioMachine cfg job).run (portfolioStart s) as = some P) :
    P.shared.Keyed := by
  have hinv : P.shared.Keyed ∧ ∀ i, PendingKeyed cfg (P.task i) := by
    refine (portfolioMachine cfg job).run_invariant
      (fun P => P.shared.Keyed ∧ ∀ i, PendingKeyed cfg (P.task i)) ?_
      ⟨hs, fun _ => .of_none rfl rfl⟩ hrun
    rintro P ⟨i, e⟩ Q ⟨hshared, hpending⟩ hnext
    obtain ⟨t, pc, hseg, rfl⟩ := Pool.machine_next_eq_some_iff.1 hnext
    obtain ⟨ht, hpc⟩ := (portfolioStep_of_segment hseg).keyed hshared (hpending i)
    exact ⟨ht, Pool.forall_task_resume (fun j _ => hpending j) hpc⟩
  exact hinv.1

end Sgr
