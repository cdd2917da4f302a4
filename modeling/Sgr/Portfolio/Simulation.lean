import Sgr.Portfolio.Tasks

/-!
# The serial engine behind concurrent calls

A handler writes books that it derived from an earlier read. The simulation relates a
pool of calls to a serial engine in which the protections under way are attached
already and the closed positions have retired their orders: an open takes effect when
it stores the position, a close when it books the fill, every other call at once.
-/

open Collection Concurrency

namespace Sgr

variable {ι : Type*} [DecidableEq ι]

/-- The pools of portfolio calls. -/
abbrev PortfolioPool (ι : Type*) := Pool ι PortfolioState PortfolioPc

/-- The step of `i` does not get in the way of what the other calls have read: a hook
stores its position only while no partial close of the symbol is under way, a close is
booked only while no other call is to write the symbol, prices reach no symbol whose
hook is under way, and a fill that finds no position is not one of an order that a
close is about to retire. -/
def Undisturbed (cfg : PortfolioConfig) (job : ι → PortfolioJob) (P : PortfolioPool ι)
    (a : ι × Unit) : Prop :=
  match P.task a.1, job a.1 with
  | .idle, .fill f =>
      P.shared.positions.get? f.key = none →
        ∀ j, ∀ e ∈ pendingRetire (P.task j), f.result.exchangeOrderId ∉ protectiveIds e
  | .idle, .prices prices =>
      ∀ j, ∀ w ∈ pendingProtection cfg (P.task j),
        prices w.1.result.symbol.ccxtSymbol = none
  | .filling (.protecting f opened), _ =>
      (protectedPosition cfg f opened).isSome →
        ∀ j, ∀ w ∈ pendingClose (P.task j), w.1.key = f.key → w.2.2.full w.2.1
  | .filling (.persistingTrade f _ _), _ =>
      ∀ j, j ≠ a.1 →
        (∀ w ∈ pendingClose (P.task j), w.1.key ≠ f.key) ∧
          ∀ w ∈ pendingProtection cfg (P.task j), w.1.key ≠ f.key
  | _, _ => True

/-- Every close under way is that of its call. -/
def Owned (job : ι → PortfolioJob) (P : PortfolioPool ι) : Prop :=
  ∀ j w, pendingClose (P.task j) = some w → job j = .fill w.1

theorem Owned.step {cfg : PortfolioConfig} {job : ι → PortfolioJob} {P Q : PortfolioPool ι}
    {a : ι × Unit} (h : Owned job P) (hnext : (portfolioMachine cfg job).next P a = some Q) :
    Owned job Q := by
  obtain ⟨i, e⟩ := a
  obtain ⟨t, pc, hsegment, rfl⟩ := Pool.machine_next_eq_some_iff.1 hnext
  refine Pool.forall_task_resume
    (φ := fun j pc => ∀ w, pendingClose pc = some w → job j = .fill w.1)
    (fun j _ => h j) fun w hw => ?_
  have hstep := portfolioStep_of_segment hsegment
  generalize P.task i = old at hstep
  cases hstep with
  | read hjob =>
      cases hw
      exact hjob
  | continued _ _ _ _ _ _ hclose' =>
      rw [hclose'] at hw
      cases hw
  | retired _ hpc =>
      rcases hpc with rfl | rfl
      · cases hw
      · cases hw
  | _ => cases hw

/-- A close computes the same from both positions. -/
structure SameTerms (p existing : Position) : Prop where
  side : p.side = existing.side
  quantity : p.quantity = existing.quantity
  entryPrice : p.entryPrice = existing.entryPrice
  ids : protectiveIds p = protectiveIds existing

namespace SameTerms

theorem refl (p : Position) : SameTerms p p := ⟨rfl, rfl, rfl, rfl⟩

theorem trans {p q r : Position} (h : SameTerms p q) (h' : SameTerms q r) :
    SameTerms p r :=
  ⟨h.side.trans h'.side, h.quantity.trans h'.quantity, h.entryPrice.trans h'.entryPrice,
    h.ids.trans h'.ids⟩

theorem atPrices (prices : String → Option ℚ) (p : Position) :
    SameTerms (p.atPrices prices) p := by
  unfold Position.atPrices
  cases prices p.symbol.ccxtSymbol
  · exact refl p
  · exact ⟨rfl, rfl, rfl, rfl⟩

theorem of_protectedPosition {cfg : PortfolioConfig} {f : FillCall} {p q : Position}
    (h : protectedPosition cfg f p = some q) : SameTerms q p := by
  obtain ⟨-, hside, hquantity, hentry, hids⟩ := protectedPosition_eq_some h
  exact ⟨hside, hquantity, hentry, hids⟩

variable {p existing : Position} (h : SameTerms p existing)

include h

theorem isClosing (side : Side) : isClosing p side = Sgr.isClosing existing side := by
  unfold Sgr.isClosing
  rw [h.side]

theorem closeQuote {f : FillCall} {price : ℚ} {s t : PortfolioState}
    (hfee : t.entryFees.get? f.key = s.entryFees.get? f.key) :
    closeQuote p f price t = Sgr.closeQuote existing f price s := by
  rw [Sgr.closeQuote, Sgr.closeQuote, h.side, h.quantity, h.entryPrice, hfee]

theorem full_iff (q : CloseQuote) : q.full p ↔ q.full existing := by
  rw [CloseQuote.full, CloseQuote.full, h.quantity]

theorem closeCash (q : CloseQuote) (f : FillCall) (cash : ℚ) :
    closeCash p q f cash = Sgr.closeCash existing q f cash := by
  rw [Sgr.closeCash, Sgr.closeCash, h.side]

theorem feeLeft (q : CloseQuote) : q.feeLeft p = q.feeLeft existing := by
  rw [CloseQuote.feeLeft, CloseQuote.feeLeft, if_congr (h.full_iff q) rfl rfl]

end SameTerms

theorem reducedPosition_atPrices (prices : String → Option ℚ) (p : Position)
    (q : CloseQuote) : reducedPosition (p.atPrices prices) q = reducedPosition p q := by
  unfold Position.atPrices
  cases prices p.symbol.ccxtSymbol <;> rfl

/-- What a close has read still holds: it would compute the same from the position
that is stored now. -/
structure Current (s : PortfolioState) (f : FillCall) (existing : Position)
    (q : CloseQuote) (p : Position) (price : ℚ) : Prop where
  get : s.positions.get? f.key = some p
  price_eq : acceptedPrice f.result = some price
  terms : SameTerms p existing
  closing : isClosing p (inferSide f.result) = true
  quote : closeQuote p f price s = q
  rest : ¬ q.full existing → reducedPosition p q = reducedPosition existing q

/-- The serial engine `s` is where the pool is once the protections under way are
attached and the closed positions have retired their orders. -/
structure Simulates (cfg : PortfolioConfig) (P : PortfolioPool ι) (s : PortfolioState) :
    Prop where
  cash : s.cash = P.shared.cash
  entryFees : ∀ key, s.entryFees.get? key = P.shared.entryFees.get? key
  retired : ∀ id, id ∈ s.retiredOrderIds ↔
    id ∈ P.shared.retiredOrderIds ∨
      ∃ j e, pendingRetire (P.task j) = some e ∧ id ∈ protectiveIds e
  protecting : ∀ j w, pendingProtection cfg (P.task j) = some w →
    P.shared.positions.get? w.1.key = some w.2.1 ∧
      s.positions.get? w.1.key = some w.2.2 ∧ w.2.1.symbol = w.1.result.symbol
  settled : ∀ key,
    (∀ j w, pendingProtection cfg (P.task j) = some w → w.1.key ≠ key) →
      s.positions.get? key = P.shared.positions.get? key
  unique : ∀ j k w w', pendingProtection cfg (P.task j) = some w →
    pendingProtection cfg (P.task k) = some w' → w.1.key = w'.1.key → j = k
  closing : ∀ j w, pendingClose (P.task j) = some w →
    ∃ p price, Current P.shared w.1 w.2.1 w.2.2 p price
  notRaised : ∀ j, (P.task j).hasRaised = false

theorem pendingProtection_eq_some {cfg : PortfolioConfig} {pc : PortfolioPc}
    {w : FillCall × Position × Position} (h : pendingProtection cfg pc = some w) :
    protectedPosition cfg w.1 w.2.1 = some w.2.2 := by
  unfold pendingProtection at h
  split at h
  · obtain ⟨q, hq, rfl⟩ := Option.map_eq_some_iff.1 h
    exact hq
  · obtain ⟨q, hq, rfl⟩ := Option.map_eq_some_iff.1 h
    exact hq
  · cases h

/-- A function of the control points that the step does not change. -/
theorem resume_task_congr {α : Type*} {φ : PortfolioPc → α} {P : PortfolioPool ι} {i : ι}
    {pc : PortfolioPc} (h : φ pc = φ (P.task i)) (t : PortfolioState) (j : ι) :
    φ ((P.resume i t pc).task j) = φ (P.task j) := by
  rw [Pool.resume_task]
  split
  · subst j
    exact h
  · rfl

theorem Current.mono {s t : PortfolioState} {f : FillCall} {existing p : Position}
    {q : CloseQuote} {price : ℚ} (h : Current s f existing q p price)
    (hget : t.positions.get? f.key = s.positions.get? f.key)
    (hfee : t.entryFees.get? f.key = s.entryFees.get? f.key) :
    Current t f existing q p price where
  get := hget.trans h.get
  price_eq := h.price_eq
  terms := h.terms
  closing := h.closing
  quote := ((SameTerms.refl p).closeQuote hfee).trans h.quote
  rest := h.rest

section Steps

variable {cfg : PortfolioConfig} {P : PortfolioPool ι} {s : PortfolioState}

theorem Simulates.notRaised_resume (h : Simulates cfg P s) {i : ι} {t : PortfolioState}
    {pc : PortfolioPc} (hraised : pc.hasRaised = false) (j : ι) :
    ((P.resume i t pc).task j).hasRaised = false := by
  rw [Pool.resume_task]
  split
  · exact hraised
  · exact h.notRaised j

theorem Simulates.frame (h : Simulates cfg P s) {i : ι} {t u : PortfolioState}
    {pc : PortfolioPc} (ht : SameBooks P.shared t) (hu : SameBooks s u)
    (hprotection : pendingProtection cfg pc = pendingProtection cfg (P.task i))
    (hclose : pendingClose pc = pendingClose (P.task i))
    (hretire : pendingRetire pc = pendingRetire (P.task i))
    (hraised : pc.hasRaised = false) : Simulates cfg (P.resume i t pc) u where
  cash := by
    rw [hu.cash, h.cash]
    exact ht.cash.symm
  entryFees key := by
    rw [hu.entryFees, h.entryFees]
    exact congrArg (·.get? key) ht.entryFees.symm
  retired id := by
    rw [hu.retired, h.retired]
    simp only [resume_task_congr hretire t, Pool.resume_shared, ht.retired]
  protecting j w hw := by
    rw [resume_task_congr hprotection t] at hw
    rw [Pool.resume_shared, ht.positions, hu.positions]
    exact h.protecting j w hw
  settled key hkey := by
    simp only [resume_task_congr hprotection t] at hkey
    rw [Pool.resume_shared, ht.positions, hu.positions]
    exact h.settled key hkey
  unique j k w w' hw hw' := by
    rw [resume_task_congr hprotection t] at hw hw'
    exact h.unique j k w w' hw hw'
  closing j w hw := by
    rw [resume_task_congr hclose t] at hw
    obtain ⟨p, price, hcur⟩ := h.closing j w hw
    refine ⟨p, price, hcur.mono ?_ ?_⟩
    · rw [Pool.resume_shared, ht.positions]
    · rw [Pool.resume_shared, ht.entryFees]
  notRaised := h.notRaised_resume hraised

omit [DecidableEq ι] in
/-- A close whose slot is not written still computes the same. -/
theorem Simulates.closing_of_ne (h : Simulates cfg P s) {t : PortfolioState}
    {key : String} {v : Option Position} {fee : Option ℚ} {cash : ℚ}
    (ht : Writes P.shared t key v fee cash) {j : ι} {w : FillCall × Position × CloseQuote}
    (hw : pendingClose (P.task j) = some w) (hne : w.1.key ≠ key) :
    ∃ p price, Current t w.1 w.2.1 w.2.2 p price := by
  obtain ⟨p, price, hcur⟩ := h.closing j w hw
  refine ⟨p, price, hcur.mono ?_ ?_⟩
  · rw [ht.stores, if_neg hne]
  · rw [ht.entryFees, if_neg hne]

theorem Simulates.dropped (h : Simulates cfg P s) {i : ι} {id : String}
    (hidle : P.task i = .idle)
    (hok : ∀ j, ∀ e ∈ pendingRetire (P.task j), id ∉ protectiveIds e) :
    Simulates cfg
      (P.resume i { P.shared with retiredOrderIds := P.shared.retiredOrderIds.erase id }
        (.filling .returned))
      { s with retiredOrderIds := s.retiredOrderIds.erase id } := by
  have hframe : Simulates cfg (P.resume i P.shared (.filling .returned)) s :=
    h.frame (.refl _) (.refl _) (by rw [hidle]; rfl) (by rw [hidle]; rfl)
      (by rw [hidle]; rfl) rfl
  refine { hframe with retired := fun id' => ?_, closing := fun j w hw => ?_ }
  · have hretire : pendingRetire (.filling .returned) = pendingRetire (P.task i) := by
      rw [hidle]
      rfl
    simp only [resume_task_congr hretire, Pool.resume_shared, Finset.mem_erase, h.retired]
    constructor
    · rintro ⟨hne, hid | hid⟩
      · exact .inl ⟨hne, hid⟩
      · exact .inr hid
    · rintro (⟨hne, hid⟩ | ⟨j, e, he, hid⟩)
      · exact ⟨hne, .inl hid⟩
      · refine ⟨?_, .inr ⟨j, e, he, hid⟩⟩
        rintro rfl
        exact hok j e he hid
  · obtain ⟨p, price, hcur⟩ := hframe.closing j w hw
    exact ⟨p, price, hcur.mono rfl rfl⟩

omit [DecidableEq ι] in
/-- A symbol without a position has no protection under way. -/
theorem Simulates.key_ne_of_get?_eq_none (h : Simulates cfg P s) {key : String}
    (hget : P.shared.positions.get? key = none) {j : ι} {w : FillCall × Position × Position}
    (hw : pendingProtection cfg (P.task j) = some w) : w.1.key ≠ key := by
  intro heq
  have hsome := (h.protecting j w hw).1
  rw [heq, hget] at hsome
  cases hsome

/-- The protections under way after an open are its own and those of the other calls. -/
theorem pendingProtection_opened {i j : ι} {f : FillCall} {opened : Position}
    {t : PortfolioState} {w : FillCall × Position × Position}
    (hw : pendingProtection cfg
      ((P.resume i t (.filling (.persistingOpen f opened))).task j) = some w) :
    (j = i ∧ ∃ q, protectedPosition cfg f opened = some q ∧ w = (f, opened, q)) ∨
      (j ≠ i ∧ pendingProtection cfg (P.task j) = some w) := by
  by_cases hj : j = i
  · subst hj
    rw [Pool.resume_task_self] at hw
    obtain ⟨q, hq, rfl⟩ := Option.map_eq_some_iff.1 hw
    exact .inl ⟨rfl, q, hq, rfl⟩
  · rw [Pool.resume_task_of_ne P hj] at hw
    exact .inr ⟨hj, hw⟩

/-- What is stored is the opened position when no protection of its symbol is under way. -/
theorem protectedPosition_eq_none_of_settled {i : ι} {f : FillCall} {opened : Position}
    {t : PortfolioState}
    (hsettled : ∀ j w, pendingProtection cfg
      ((P.resume i t (.filling (.persistingOpen f opened))).task j) = some w →
        w.1.key ≠ f.key) : protectedPosition cfg f opened = none := by
  by_contra hsome
  obtain ⟨q, hq⟩ := Option.ne_none_iff_exists'.1 hsome
  refine hsettled i (f, opened, q) ?_ rfl
  rw [Pool.resume_task_self, pendingProtection, hq]
  rfl

/-- An open takes effect at once; its protection is attached in the serial engine. -/
theorem Simulates.opened (h : Simulates cfg P s) {i : ι} {f : FillCall} {price : ℚ}
    {opened : Position} {fee : Option ℚ} {t u : PortfolioState}
    (hsymbol : opened.symbol = f.result.symbol) (hidle : P.task i = .idle)
    (hget : P.shared.positions.get? f.key = none)
    (ht : Writes P.shared t f.key (some opened) fee (openCash f price P.shared.cash))
    (hu : Writes s u f.key (some ((protectedPosition cfg f opened).getD opened)) fee
      (openCash f price s.cash)) :
    Simulates cfg (P.resume i t (.filling (.persistingOpen f opened))) u where
  cash := by
    rw [hu.cash, h.cash]
    exact ht.cash.symm
  entryFees key := by rw [Pool.resume_shared, hu.entryFees, ht.entryFees, h.entryFees]
  retired id := by
    have hretire : pendingRetire (.filling (.persistingOpen f opened)) =
        pendingRetire (P.task i) := by
      rw [hidle]
      rfl
    simp only [resume_task_congr hretire, Pool.resume_shared, hu.retired, ht.retired,
      h.retired]
  protecting j w hw := by
    rcases pendingProtection_opened hw with ⟨-, q, hq, rfl⟩ | ⟨-, hold⟩
    · refine ⟨?_, ?_, hsymbol⟩
      · rw [Pool.resume_shared, ht.stores, if_pos rfl]
      · rw [hu.stores, if_pos rfl, hq]
        rfl
    · have hne := h.key_ne_of_get?_eq_none hget hold
      rw [Pool.resume_shared, ht.stores, if_neg hne, hu.stores, if_neg hne]
      exact h.protecting j w hold
  settled key hkey := by
    rw [Pool.resume_shared, ht.stores, hu.stores]
    by_cases hk : key = f.key
    · -- without a protection under way both engines store the opened position
      subst hk
      rw [if_pos rfl, if_pos rfl, protectedPosition_eq_none_of_settled hkey]
      rfl
    · rw [if_neg hk, if_neg hk]
      refine h.settled key fun j w hw => hkey j w ?_
      rw [Pool.resume_task_of_ne P]
      · exact hw
      · rintro rfl
        rw [hidle] at hw
        cases hw
  unique j k w w' hw hw' heq := by
    rcases pendingProtection_opened hw with ⟨rfl, q, -, rfl⟩ | ⟨-, hold⟩
    · rcases pendingProtection_opened hw' with ⟨rfl, -⟩ | ⟨-, hold'⟩
      · rfl
      · exact absurd heq.symm (h.key_ne_of_get?_eq_none hget hold')
    · rcases pendingProtection_opened hw' with ⟨rfl, q, -, rfl⟩ | ⟨-, hold'⟩
      · exact absurd heq (h.key_ne_of_get?_eq_none hget hold)
      · exact h.unique j k w w' hold hold' heq
  closing j w hw := by
    have hclose : pendingClose (.filling (.persistingOpen f opened)) =
        pendingClose (P.task i) := by
      rw [hidle]
      rfl
    rw [resume_task_congr hclose] at hw
    refine h.closing_of_ne ht hw fun heq => ?_
    obtain ⟨p, price, hcur⟩ := h.closing j w hw
    have hsome := hcur.get
    rw [heq, hget] at hsome
    cases hsome
  notRaised := h.notRaised_resume rfl

theorem Simulates.read (h : Simulates cfg P s) {i : ι} {f : FillCall} {price : ℚ}
    {existing : Position} {t : PortfolioState} (hidle : P.task i = .idle)
    (hprice : acceptedPrice f.result = some price)
    (hget : P.shared.positions.get? f.key = some existing)
    (hside : isClosing existing (inferSide f.result) = true) (ht : SameBooks P.shared t) :
    Simulates cfg (P.resume i t (.filling (.persistingTrade f existing
      (closeQuote existing f price P.shared)))) s := by
  have hframe : Simulates cfg (P.resume i t (.filling .returned)) s :=
    h.frame ht (.refl _) (by rw [hidle]; rfl) (by rw [hidle]; rfl) (by rw [hidle]; rfl)
      rfl
  -- apart from the close that has been read, the pool is one in which nothing happened
  set pc : PortfolioPc :=
    .filling (.persistingTrade f existing (closeQuote existing f price P.shared))
  have htask : ∀ {α : Type} (φ : PortfolioPc → α), φ pc = φ (.filling .returned) → ∀ j,
      φ ((P.resume i t pc).task j) =
        φ ((P.resume i t (.filling .returned)).task j) := by
    intro α φ hφ j
    rw [Pool.resume_task, Pool.resume_task]
    split
    · exact hφ
    · rfl
  have hprotection := htask (pendingProtection cfg) rfl
  have hretire := htask pendingRetire rfl
  refine ⟨hframe.cash, hframe.entryFees, ?retired, ?protecting, ?settled, ?unique, ?closing,
    h.notRaised_resume rfl⟩
  case retired =>
    simp only [hretire]
    exact hframe.retired
  case protecting =>
    simp only [hprotection]
    exact hframe.protecting
  case settled =>
    simp only [hprotection]
    exact hframe.settled
  case unique =>
    simp only [hprotection]
    exact hframe.unique
  case closing =>
    intro j w hw
    by_cases hj : j = i
    · subst hj
      rw [Pool.resume_task_self] at hw
      cases hw
      refine ⟨existing, price, ?_, hprice, .refl existing, hside, ?_, fun _ => rfl⟩
      · rw [Pool.resume_shared, ht.positions]
        exact hget
      · refine (SameTerms.refl existing).closeQuote ?_
        rw [Pool.resume_shared, ht.entryFees]
    · rw [Pool.resume_task_of_ne P hj] at hw
      refine hframe.closing j w ?_
      rw [Pool.resume_task_of_ne P hj]
      exact hw

theorem Current.updatePrices {s : PortfolioState} {f : FillCall} {existing p : Position}
    {q : CloseQuote} {price : ℚ} (h : Current s f existing q p price)
    (prices : String → Option ℚ) :
    Current (updatePrices prices s) f existing q (p.atPrices prices) price where
  get := by rw [get?_updatePrices, h.get, Option.map_some]
  price_eq := h.price_eq
  terms := (SameTerms.atPrices prices p).trans h.terms
  closing := ((SameTerms.atPrices prices p).isClosing _).trans h.closing
  quote := by
    refine ((SameTerms.atPrices prices p).closeQuote ?_).trans h.quote
    rw [Sgr.updatePrices, PortfolioState.updatePeak_entryFees]
  rest hnot := (reducedPosition_atPrices prices p q).trans (h.rest hnot)

theorem Simulates.repriced (h : Simulates cfg P s) {i : ι} (hidle : P.task i = .idle)
    {prices : String → Option ℚ}
    (hok : ∀ j, ∀ w ∈ pendingProtection cfg (P.task j),
      prices w.1.result.symbol.ccxtSymbol = none) (n : ℕ) :
    Simulates cfg (P.resume i (updatePrices prices P.shared) (.persistingPrices n))
      (updatePrices prices s) := by
  have hprotection : pendingProtection cfg (.persistingPrices n) =
      pendingProtection cfg (P.task i) := by
    rw [hidle]
    rfl
  have hclose : pendingClose (.persistingPrices n) = pendingClose (P.task i) := by
    rw [hidle]
    rfl
  have hretire : pendingRetire (.persistingPrices n) = pendingRetire (P.task i) := by
    rw [hidle]
    rfl
  have hbooks : ∀ r : PortfolioState, (updatePrices prices r).cash = r.cash ∧
      (updatePrices prices r).entryFees = r.entryFees ∧
      (updatePrices prices r).retiredOrderIds = r.retiredOrderIds := by
    intro r
    rw [updatePrices, PortfolioState.updatePeak_cash, PortfolioState.updatePeak_entryFees,
      PortfolioState.updatePeak_retiredOrderIds]
    exact ⟨rfl, rfl, rfl⟩
  refine ⟨?cash, ?entryFees, ?retired, ?protecting, ?settled, ?unique, ?closing,
    h.notRaised_resume rfl⟩
  case cash => rw [(hbooks s).1, h.cash, Pool.resume_shared, (hbooks P.shared).1]
  case entryFees =>
    intro key
    rw [(hbooks s).2.1, h.entryFees, Pool.resume_shared, (hbooks P.shared).2.1]
  case retired =>
    intro id
    simp only [resume_task_congr hretire, (hbooks s).2.2, Pool.resume_shared,
      (hbooks P.shared).2.2, h.retired]
  case protecting =>
    intro j w hw
    rw [resume_task_congr hprotection] at hw
    obtain ⟨hget, hserial, hsymbol⟩ := h.protecting j w hw
    have hnone := hok j w hw
    obtain ⟨hsymbol', -⟩ := protectedPosition_eq_some (pendingProtection_eq_some hw)
    refine ⟨?_, ?_, hsymbol⟩
    · rw [Pool.resume_shared, get?_updatePrices, hget, Option.map_some,
        Position.atPrices, hsymbol, hnone]
      rfl
    · rw [get?_updatePrices, hserial, Option.map_some, Position.atPrices, hsymbol',
        hsymbol, hnone]
      rfl
  case settled =>
    intro key hkey
    simp only [resume_task_congr hprotection] at hkey
    rw [Pool.resume_shared, get?_updatePrices, get?_updatePrices, h.settled key hkey]
  case unique =>
    intro j k w w' hw hw'
    rw [resume_task_congr hprotection] at hw hw'
    exact h.unique j k w w' hw hw'
  case closing =>
    intro j w hw
    rw [resume_task_congr hclose] at hw
    obtain ⟨p, price, hcur⟩ := h.closing j w hw
    exact ⟨p.atPrices prices, price, hcur.updatePrices prices⟩

/-- A hook that stores its position catches up with the serial engine. -/
theorem Simulates.attached (h : Simulates cfg P s) {i : ι} {f : FillCall}
    {opened q : Position} (hpc : P.task i = .filling (.protecting f opened))
    (hq : protectedPosition cfg f opened = some q)
    (hok : ∀ j, ∀ w ∈ pendingClose (P.task j), w.1.key = f.key → w.2.2.full w.2.1) :
    Simulates cfg
      (P.resume i { P.shared with positions := P.shared.positions.set f.key q }
        (.filling .persistingProtected)) s := by
  have hpending : pendingProtection cfg (P.task i) = some (f, opened, q) := by
    rw [hpc, pendingProtection, hq]
    rfl
  have hclose : pendingClose (.filling .persistingProtected) = pendingClose (P.task i) := by
    rw [hpc]
    rfl
  have hretire : pendingRetire (.filling .persistingProtected) =
      pendingRetire (P.task i) := by
    rw [hpc]
    rfl
  obtain ⟨hget, hserial, -⟩ := h.protecting i _ hpending
  have hold : ∀ {t : PortfolioState} {j w}, pendingProtection cfg
      ((P.resume i t (.filling .persistingProtected)).task j) = some w →
        j ≠ i ∧ pendingProtection cfg (P.task j) = some w := by
    intro t j w hw
    rw [Pool.resume_task] at hw
    split at hw
    · cases hw
    · exact ⟨‹_›, hw⟩
  refine ⟨h.cash, h.entryFees, ?retired, ?protecting, ?settled, ?unique, ?closing,
    h.notRaised_resume rfl⟩
  case retired =>
    intro id
    simp only [resume_task_congr hretire, Pool.resume_shared, h.retired]
  case protecting =>
    intro j w hw
    obtain ⟨hj, hw⟩ := hold hw
    have hne : w.1.key ≠ f.key := fun heq => hj (h.unique j i _ _ hw hpending heq)
    rw [Pool.resume_shared, Dict.get?_set_of_ne _ hne]
    exact h.protecting j w hw
  case settled =>
    intro key hkey
    rw [Pool.resume_shared, Dict.get?_set]
    by_cases hk : key = f.key
    · rw [if_pos hk, hk]
      exact hserial
    · rw [if_neg hk]
      refine h.settled key fun j w hw => ?_
      by_cases hj : j = i
      · subst hj
        rw [hpending] at hw
        cases hw
        exact Ne.symm hk
      · refine hkey j w ?_
        rw [Pool.resume_task_of_ne P hj]
        exact hw
  case unique => exact fun j k w w' hw hw' => h.unique j k w w' (hold hw).2 (hold hw').2
  case closing =>
    intro j w hw
    rw [resume_task_congr hclose] at hw
    obtain ⟨p, price, hcur⟩ := h.closing j w hw
    by_cases hk : w.1.key = f.key
    · -- the close takes the whole position, so it does not matter which one it was
      have hfull := hok j w hw hk
      have hp : p = opened := by
        have hsome := hcur.get
        rw [hk, hget] at hsome
        exact (Option.some.inj hsome).symm
      subst hp
      have hterms := SameTerms.of_protectedPosition hq
      refine ⟨q, price, ?_, hcur.price_eq, hterms.trans hcur.terms,
        (hterms.isClosing _).trans hcur.closing, (hterms.closeQuote rfl).trans hcur.quote,
        fun hnot => absurd hfull hnot⟩
      rw [Pool.resume_shared, hk, Dict.get?_set_self]
    · refine ⟨p, price, hcur.mono ?_ rfl⟩
      rw [Pool.resume_shared, Dict.get?_set_of_ne _ hk]

/-- The orders that are about to be retired are those of the woken call and of the others. -/
theorem exists_pendingRetire_resume_iff {i : ι} {t : PortfolioState} {pc : PortfolioPc}
    {id : String} :
    (∃ j e, pendingRetire ((P.resume i t pc).task j) = some e ∧ id ∈ protectiveIds e) ↔
      (∃ e, pendingRetire pc = some e ∧ id ∈ protectiveIds e) ∨
        ∃ j, j ≠ i ∧ ∃ e, pendingRetire (P.task j) = some e ∧ id ∈ protectiveIds e :=
  Pool.exists_task_resume_iff
    (φ := fun _ pc => ∃ e, pendingRetire pc = some e ∧ id ∈ protectiveIds e)

omit [DecidableEq ι] in
theorem exists_pendingRetire_iff {i : ι} (hidle : pendingRetire (P.task i) = none)
    {id : String} :
    (∃ j e, pendingRetire (P.task j) = some e ∧ id ∈ protectiveIds e) ↔
      ∃ j, j ≠ i ∧ ∃ e, pendingRetire (P.task j) = some e ∧ id ∈ protectiveIds e := by
  constructor
  · rintro ⟨j, e, he, hid⟩
    refine ⟨j, ?_, e, he, hid⟩
    rintro rfl
    rw [hidle] at he
    cases he
  · rintro ⟨j, -, e, he, hid⟩
    exact ⟨j, e, he, hid⟩

/-- A close that is booked takes effect in both engines. -/
theorem Simulates.booked (h : Simulates cfg P s) {i : ι} {f : FillCall}
    {existing : Position} {q : CloseQuote}
    (hpc : P.task i = .filling (.persistingTrade f existing q))
    (hok : ∀ j, j ≠ i → (∀ w ∈ pendingClose (P.task j), w.1.key ≠ f.key) ∧
      ∀ w ∈ pendingProtection cfg (P.task j), w.1.key ≠ f.key)
    {fee : Option ℚ} {cash : ℚ → ℚ} {t u : PortfolioState} {pc : PortfolioPc}
    (ht : Writes P.shared t f.key (q.left existing) fee (cash P.shared.cash))
    (hstores : Stores s u f.key (q.left existing))
    (hfees : ∀ key, u.entryFees.get? key =
      if key = f.key then fee else s.entryFees.get? key)
    (hcash : u.cash = cash s.cash)
    (hretired : ∀ id, id ∈ u.retiredOrderIds ↔
      id ∈ s.retiredOrderIds ∨ q.full existing ∧ id ∈ protectiveIds existing)
    (hprotection : pendingProtection cfg pc = none) (hclose : pendingClose pc = none)
    (hretire : ∀ e, pendingRetire pc = some e ↔ q.full existing ∧ e = existing)
    (hraised : pc.hasRaised = false) : Simulates cfg (P.resume i t pc) u := by
  have hprotection' : pendingProtection cfg pc = pendingProtection cfg (P.task i) := by
    rw [hpc, hprotection]
    rfl
  have hnone : ∀ j w, pendingProtection cfg (P.task j) = some w → j ≠ i := by
    rintro j w hw rfl
    rw [hpc] at hw
    cases hw
  have hidle : pendingRetire (P.task i) = none := by
    rw [hpc]
    rfl
  refine ⟨?cash, ?entryFees, ?retired, ?protecting, ?settled, ?unique, ?closing,
    h.notRaised_resume hraised⟩
  case cash =>
    rw [hcash, h.cash]
    exact ht.cash.symm
  case entryFees =>
    intro key
    rw [hfees, Pool.resume_shared, ht.entryFees, h.entryFees]
  case retired =>
    intro id
    rw [hretired, h.retired, Pool.resume_shared, ht.retired, or_assoc,
      exists_pendingRetire_resume_iff, exists_pendingRetire_iff hidle, or_comm (b := _ ∧ _)]
    refine or_congr_right (or_congr_left ?_)
    simp [hretire]
  case protecting =>
    intro j w hw
    rw [resume_task_congr hprotection'] at hw
    have hne := (hok j (hnone j w hw)).2 w hw
    rw [Pool.resume_shared, ht.stores, if_neg hne, hstores, if_neg hne]
    exact h.protecting j w hw
  case settled =>
    intro key hkey
    simp only [resume_task_congr hprotection'] at hkey
    rw [Pool.resume_shared, ht.stores, hstores, h.settled key hkey]
  case unique =>
    intro j k w w' hw hw'
    rw [resume_task_congr hprotection'] at hw hw'
    exact h.unique j k w w' hw hw'
  case closing =>
    intro j w hw
    by_cases hj : j = i
    · subst hj
      rw [Pool.resume_task_self, hclose] at hw
      cases hw
    · rw [Pool.resume_task_of_ne P hj] at hw
      exact h.closing_of_ne ht hw ((hok j hj).1 w hw)

/-- A handler that remembers the retired orders catches up with the serial engine. -/
theorem Simulates.retires (h : Simulates cfg P s) {i : ι} {existing : Position}
    (hpc : P.task i = .filling (.persistingClose existing)) {t : PortfolioState}
    (ht : SameBooks (retire existing P.shared) t) {pc : PortfolioPc}
    (hprotection : pendingProtection cfg pc = none) (hclose : pendingClose pc = none)
    (hretire : pendingRetire pc = none) (hraised : pc.hasRaised = false) :
    Simulates cfg (P.resume i t pc) s := by
  have hprotection' : pendingProtection cfg pc = pendingProtection cfg (P.task i) := by
    rw [hpc, hprotection]
    rfl
  have hclose' : pendingClose pc = pendingClose (P.task i) := by
    rw [hpc, hclose]
    rfl
  have hpositions : t.positions = P.shared.positions := ht.positions
  have hfees : t.entryFees = P.shared.entryFees := ht.entryFees
  refine ⟨h.cash.trans ht.cash.symm, ?entryFees, ?retired, ?protecting, ?settled, ?unique,
    ?closing, h.notRaised_resume hraised⟩
  case entryFees =>
    intro key
    rw [Pool.resume_shared, hfees, h.entryFees]
  case retired =>
    intro id
    -- the orders of the closed position are remembered once its call is done with them
    have hnow : (∃ j e, pendingRetire ((P.resume i t pc).task j) = some e ∧
        id ∈ protectiveIds e) ↔
          ∃ j, j ≠ i ∧ ∃ e, pendingRetire (P.task j) = some e ∧ id ∈ protectiveIds e := by
      rw [exists_pendingRetire_resume_iff]
      simp [hretire]
    rw [h.retired, Pool.resume_shared, ht.retired, retire, Finset.mem_union, or_assoc, hnow]
    refine or_congr_right ⟨?_, ?_⟩
    · rintro ⟨j, e, he, hid⟩
      by_cases hj : j = i
      · subst hj
        rw [hpc] at he
        cases he
        exact .inl hid
      · exact .inr ⟨j, hj, e, he, hid⟩
    · rintro (hid | ⟨j, -, e, he, hid⟩)
      · exact ⟨i, existing, by rw [hpc]; rfl, hid⟩
      · exact ⟨j, e, he, hid⟩
  case protecting =>
    intro j w hw
    rw [resume_task_congr hprotection'] at hw
    rw [Pool.resume_shared, hpositions]
    exact h.protecting j w hw
  case settled =>
    intro key hkey
    simp only [resume_task_congr hprotection'] at hkey
    rw [Pool.resume_shared, hpositions]
    exact h.settled key hkey
  case unique =>
    intro j k w w' hw hw'
    rw [resume_task_congr hprotection'] at hw hw'
    exact h.unique j k w w' hw hw'
  case closing =>
    intro j w hw
    rw [resume_task_congr hclose'] at hw
    obtain ⟨p, price, hcur⟩ := h.closing j w hw
    refine ⟨p, price, hcur.mono ?_ ?_⟩
    · rw [Pool.resume_shared, hpositions]
    · rw [Pool.resume_shared, hfees]

omit [DecidableEq ι] in
theorem Simulates.get?_eq_none (h : Simulates cfg P s) {key : String}
    (hget : P.shared.positions.get? key = none) : s.positions.get? key = none := by
  rw [h.settled key, hget]
  intro j w hw
  exact h.key_ne_of_get?_eq_none hget hw

omit [DecidableEq ι] in
/-- What the serial engine stores differs at most by its protection. -/
theorem Simulates.get?_eq_some (h : Simulates cfg P s) {key : String} {p : Position}
    (hget : P.shared.positions.get? key = some p) :
    ∃ p', s.positions.get? key = some p' ∧ SameTerms p' p := by
  by_cases hpending : ∃ j w, pendingProtection cfg (P.task j) = some w ∧ w.1.key = key
  · obtain ⟨j, w, hw, rfl⟩ := hpending
    obtain ⟨hopened, hserial, -⟩ := h.protecting j w hw
    rw [hget] at hopened
    cases hopened
    exact ⟨w.2.2, hserial, .of_protectedPosition (pendingProtection_eq_some hw)⟩
  · refine ⟨p, ?_, .refl p⟩
    rw [h.settled key, hget]
    intro j w hw heq
    exact hpending ⟨j, w, hw, heq⟩

omit [DecidableEq ι] in
/-- The serial engine books a close whose slot nobody else is to write. -/
theorem Simulates.onOrderFilled_close (h : Simulates cfg P s) {f : FillCall}
    {existing p : Position} {q : CloseQuote} {price : ℚ}
    (hcur : Current P.shared f existing q p price)
    (hsettled : ∀ j w, pendingProtection cfg (P.task j) = some w → w.1.key ≠ f.key) :
    ∃ u, onOrderFilled cfg f s = some u ∧ Stores s u f.key (q.left existing) ∧
      (∀ key, u.entryFees.get? key =
        if key = f.key then q.feeLeft existing else s.entryFees.get? key) ∧
      u.cash = closeCash existing q f s.cash ∧
      ∀ id, id ∈ u.retiredOrderIds ↔
        id ∈ s.retiredOrderIds ∨ q.full existing ∧ id ∈ protectiveIds existing := by
  have hget : s.positions.get? f.key = some p := (h.settled f.key hsettled).trans hcur.get
  have hquote : closeQuote p f price s = q :=
    ((SameTerms.refl p).closeQuote (h.entryFees f.key)).trans hcur.quote
  have hleft : q.left p = q.left existing := by
    unfold CloseQuote.left
    by_cases hfull : q.full existing
    · rw [if_pos hfull, if_pos ((hcur.terms.full_iff q).2 hfull)]
    · rw [if_neg hfull, if_neg ((hcur.terms.full_iff q).not.2 hfull), hcur.rest hfull]
  have hget' : (recordTrade cfg p q f s).positions.get? f.key = some p := hget
  obtain ⟨t, ht, hwrites⟩ := writes_bookClose p q hget'
  refine ⟨(if q.full p then retire p t else t).updatePeak, ?_, ?_, ?_, ?_, ?_⟩
  · simp [onOrderFilled, hcur.price_eq, hget, updatePosition, hcur.closing, hquote, ht]
  · intro key
    rw [PortfolioState.updatePeak_positions, apply_ite PortfolioState.positions, ← hleft]
    exact (ite_self _).symm ▸ hwrites.stores key
  · intro key
    rw [PortfolioState.updatePeak_entryFees, apply_ite PortfolioState.entryFees,
      ← hcur.terms.feeLeft]
    exact (ite_self _).symm ▸ hwrites.entryFees key
  · rw [PortfolioState.updatePeak_cash, apply_ite PortfolioState.cash,
      ← hcur.terms.closeCash]
    exact (ite_self _).symm ▸ hwrites.cash
  · intro id
    have hretired : t.retiredOrderIds = s.retiredOrderIds := hwrites.retired
    rw [PortfolioState.updatePeak_retiredOrderIds, ← hcur.terms.full_iff,
      ← hcur.terms.ids]
    by_cases hfull : q.full p
    · simp [hfull, retire, hretired]
    · simp [hfull, hretired]

theorem effective_resume_of_iff {i : ι} {pc : PortfolioPc}
    (h : pc.Effective ↔ (P.task i).Effective) (t : PortfolioState) (j : ι) :
    ((P.resume i t pc).task j).Effective ↔ (P.task j).Effective := by
  rw [Pool.resume_task]
  split
  · subst j
    exact h
  · exact Iff.rfl

theorem effective_resume_of_effective {i : ι} {pc : PortfolioPc} (h : pc.Effective)
    (t : PortfolioState) (j : ι) :
    ((P.resume i t pc).task j).Effective ↔ (P.task j).Effective ∨ j = i := by
  rw [Pool.resume_task]
  by_cases hj : j = i
  · simp [hj, h]
  · simp [hj]

variable {job : ι → PortfolioJob}

/-- Booking a close is a call that takes effect. -/
theorem Simulates.step_close (h : Simulates cfg P s) (howned : Owned job P) {i : ι}
    {f : FillCall} {existing : Position} {q : CloseQuote}
    (hpc : P.task i = .filling (.persistingTrade f existing q))
    (hok : ∀ j, j ≠ i → (∀ w ∈ pendingClose (P.task j), w.1.key ≠ f.key) ∧
      ∀ w ∈ pendingProtection cfg (P.task j), w.1.key ≠ f.key)
    {t : PortfolioState} (hbook : bookClose existing q f P.shared = some t)
    {pc : PortfolioPc} (heff : pc.Effective) (hprotection : pendingProtection cfg pc = none)
    (hclose : pendingClose pc = none)
    (hretire : ∀ e, pendingRetire pc = some e ↔ q.full existing ∧ e = existing)
    (hraised : pc.hasRaised = false) :
    ∃ i', ¬ (P.task i').Effective ∧
      (∃ u, serial cfg (job i') s = some u ∧ Simulates cfg (P.resume i t pc) u) ∧
      ∀ j, ((P.resume i t pc).task j).Effective ↔ (P.task j).Effective ∨ j = i' := by
  obtain ⟨p, price, hcur⟩ := h.closing i (f, existing, q) (by rw [hpc]; rfl)
  obtain ⟨t', ht', hwrites⟩ := writes_bookClose existing q hcur.get
  rw [hbook] at ht'
  cases ht'
  have hsettled : ∀ j w, pendingProtection cfg (P.task j) = some w → w.1.key ≠ f.key := by
    intro j w hw
    refine (hok j ?_).2 w hw
    rintro rfl
    rw [hpc] at hw
    cases hw
  obtain ⟨u, hu, hstores, hfees, hcash, hretired⟩ := h.onOrderFilled_close hcur hsettled
  refine ⟨i, ?_, ⟨u, ?_, ?_⟩, effective_resume_of_effective heff t⟩
  · rw [hpc]
    exact id
  · rw [howned i (f, existing, q) (by rw [hpc]; rfl), serial, hu]
  · exact h.booked hpc hok hwrites hstores hfees hcash hretired hprotection hclose hretire
      hraised

/-- A step either leaves the serial engine where it is or lets it take one call. -/
theorem Simulates.step (h : Simulates cfg P s) (howned : Owned job P) {a : ι × Unit}
    {Q : PortfolioPool ι}
    (hok : Undisturbed cfg job P a) (hnext : (portfolioMachine cfg job).next P a = some Q) :
    (Simulates cfg Q s ∧ ∀ j, (Q.task j).Effective ↔ (P.task j).Effective) ∨
      ∃ i, ¬ (P.task i).Effective ∧
        (∃ u, serial cfg (job i) s = some u ∧ Simulates cfg Q u) ∧
        ∀ j, (Q.task j).Effective ↔ (P.task j).Effective ∨ j = i := by
  obtain ⟨i, e⟩ := a
  obtain ⟨t, pc, hsegment, rfl⟩ := Pool.machine_next_eq_some_iff.1 hnext
  have hstep := portfolioStep_of_segment hsegment
  unfold Undisturbed at hok
  dsimp only at hok
  generalize hpc : P.task i = old at hstep hok
  -- a call that takes effect when it starts
  have takes : old = .idle → pc.Effective →
      (∃ u, serial cfg (job i) s = some u ∧ Simulates cfg (P.resume i t pc) u) →
      ∃ i', ¬ (P.task i').Effective ∧
        (∃ u, serial cfg (job i') s = some u ∧ Simulates cfg (P.resume i t pc) u) ∧
        ∀ j, ((P.resume i t pc).task j).Effective ↔ (P.task j).Effective ∨ j = i' := by
    rintro rfl heff hserial
    refine ⟨i, ?_, hserial, effective_resume_of_effective heff t⟩
    rw [hpc]
    exact id
  cases hstep with
  | @ignored f hjob hprice =>
      refine .inr (takes rfl trivial ⟨s, ?_, ?_⟩)
      · rw [hjob, serial, onOrderFilled, hprice]
      · exact h.frame (.refl _) (.refl _) (by rw [hpc]; rfl) (by rw [hpc]; rfl)
          (by rw [hpc]; rfl) rfl
  | @sameSide f price existing hjob hprice hget hside =>
      obtain ⟨p, hp, hterms⟩ := h.get?_eq_some hget
      refine .inr (takes rfl trivial ⟨s.updatePeak, ?_, ?_⟩)
      · simp [hjob, serial, onOrderFilled, hprice, hp, updatePosition, hterms.isClosing, hside]
      · exact h.frame (.updatePeak _) (.updatePeak _) (by rw [hpc]; rfl) (by rw [hpc]; rfl)
          (by rw [hpc]; rfl) rfl
  | @dropped f price hjob hprice hget hretired =>
      rw [hjob] at hok
      refine .inr (takes rfl trivial
        ⟨_, ?_, h.dropped hpc (hok hget)⟩)
      have hmem := (h.retired f.result.exchangeOrderId).2 (.inl hretired)
      simp [hjob, serial, onOrderFilled, hprice, h.get?_eq_none hget, hmem]
  | @opened f price hjob hprice hget hretired =>
      rw [hjob] at hok
      have hmem : f.result.exchangeOrderId ∉ s.retiredOrderIds := by
        rw [h.retired]
        rintro (hid | ⟨j, e, he, hid⟩)
        · exact hretired hid
        · exact hok hget j e he hid
      have hopen := h.opened rfl hpc hget (writes_bookOpen cfg f price P.shared)
        (writes_openPosition cfg f price s)
      refine .inr (takes rfl trivial ⟨(openPosition cfg f price s).updatePeak, ?_, ?_⟩)
      · simp [hjob, serial, onOrderFilled, hprice, h.get?_eq_none hget, hmem]
      · -- only the peak of the serial engine is new
        rw [← Pool.resume_resume P i (bookOpen cfg f price P.shared)
          (bookOpen cfg f price P.shared) _ (.filling (.persistingOpen f _))]
        exact hopen.frame (.refl _) (.updatePeak _) (by rw [Pool.resume_task_self])
          (by rw [Pool.resume_task_self]) (by rw [Pool.resume_task_self]) rfl
  | @read f price existing hjob hprice hget hside =>
      refine .inl ⟨h.read hpc hprice hget hside (.recordTrade cfg existing _ f P.shared),
        effective_resume_of_iff ?_ _⟩
      rw [hpc]
      exact Iff.rfl
  | @repriced prices hjob =>
      rw [hjob] at hok
      refine .inr (takes rfl trivial ⟨updatePrices prices s, ?_, h.repriced hpc hok _⟩)
      rw [hjob, serial]
  | continued hbooks heffective heffective' hraised hprotection hclose hclose' hretire hretire' =>
      subst hpc
      refine .inl ⟨h.frame hbooks (.refl _) hprotection (hclose'.trans hclose.symm)
        (hretire'.trans hretire.symm) hraised, effective_resume_of_iff ?_ _⟩
      exact iff_of_true heffective' heffective
  | @attached f opened q hq =>
      refine .inl ⟨h.attached hpc hq (hok (by rw [hq]; rfl)), effective_resume_of_iff ?_ _⟩
      rw [hpc]
      exact Iff.rfl
  | @raised f existing q hbook =>
      obtain ⟨p, price, hcur⟩ := h.closing i (f, existing, q) (by rw [hpc]; rfl)
      obtain ⟨u, hu, -⟩ := writes_bookClose existing q hcur.get
      rw [hbook] at hu
      cases hu
  | @closed f existing q t hbook hfull =>
      refine .inr (h.step_close howned hpc hok hbook trivial rfl rfl ?_ rfl)
      intro e
      rw [eq_comm (a := e)]
      exact (Option.some_inj).trans (and_iff_right hfull).symm
  | @reduced f existing q t hbook hnot =>
      refine .inr (h.step_close howned hpc hok hbook trivial rfl rfl ?_ rfl)
      intro e
      refine iff_of_false (fun he => ?_) fun he => hnot he.1
      cases he
  | retired hbooks hpc' =>
      refine .inl ⟨?_, effective_resume_of_iff ?_ _⟩
      · rcases hpc' with rfl | rfl
        · exact h.retires hpc hbooks rfl rfl rfl rfl
        · exact h.retires hpc hbooks rfl rfl rfl rfl
      · rw [hpc]
        rcases hpc' with rfl | rfl <;> exact Iff.rfl

end Steps

end Sgr
