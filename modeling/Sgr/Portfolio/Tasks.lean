import Sgr.Concurrency.Pool
import Sgr.Portfolio.Effects

/-!
# Concurrent calls of the portfolio engine

`on_order_filled` and `update_prices` as tasks that share the engine. The handler of a
fill suspends while it persists a trade or a position and while it waits for a
protection hook. Failures of the persistence are swallowed by the source and leave no
trace here.
-/

open Collection Concurrency

namespace Sgr

/-- The suspension points of `on_order_filled`. -/
inductive FillPc
  /-- `_persist_position_upsert` of the position just opened. -/
  | persistingOpen (f : FillCall) (opened : Position)
  /-- `_on_position_opened`. -/
  | protecting (f : FillCall) (opened : Position)
  | persistingProtected
  /-- `_persist_trade`, with the position as it was read. -/
  | persistingTrade (f : FillCall) (existing : Position) (q : CloseQuote)
  | persistingPartial
  /-- `_persist_position_close`. -/
  | persistingClose (existing : Position)
  /-- `_on_position_closed`. -/
  | unprotecting
  | returned
  | raised

/-- `on_order_filled` up to its first suspension. -/
def fillStart (cfg : PortfolioConfig) (f : FillCall) (s : PortfolioState) :
    PortfolioState × FillPc :=
  match acceptedPrice f.result with
  | none => (s, .returned)
  | some price =>
      match s.positions.get? f.key with
      | none =>
          if f.result.exchangeOrderId ∈ s.retiredOrderIds then
            ({ s with retiredOrderIds := s.retiredOrderIds.erase f.result.exchangeOrderId },
              .returned)
          else (bookOpen cfg f price s, .persistingOpen f (openedPosition cfg f price))
      | some existing =>
          if isClosing existing (inferSide f.result) then
            let q := closeQuote existing f price s
            (recordTrade cfg existing q f s, .persistingTrade f existing q)
          else (s.updatePeak, .returned)

/-- `on_order_filled` from one suspension to the next. -/
def fillResume (cfg : PortfolioConfig) (s : PortfolioState) :
    FillPc → Option (PortfolioState × FillPc)
  | .persistingOpen f opened =>
      if cfg.protection.isSome then some (s, .protecting f opened)
      else some (s.updatePeak, .returned)
  | .protecting f opened =>
      match protectedPosition cfg f opened with
      | some q => some ({ s with positions := s.positions.set f.key q }, .persistingProtected)
      | none => some (s.updatePeak, .returned)
  | .persistingProtected => some (s.updatePeak, .returned)
  | .persistingTrade f existing q =>
      match bookClose existing q f s with
      | none => some (s, .raised)
      | some t =>
          some (t, if q.full existing then .persistingClose existing else .persistingPartial)
  | .persistingPartial => some (s.updatePeak, .returned)
  | .persistingClose existing =>
      if cfg.protection.isSome then some (retire existing s, .unprotecting)
      else some ((retire existing s).updatePeak, .returned)
  | .unprotecting => some (s.updatePeak, .returned)
  | .returned => none
  | .raised => none

/-- A call of the portfolio engine. -/
inductive PortfolioJob
  | fill (f : FillCall)
  | prices (prices : String → Option ℚ)

/-- The control points of a call. -/
inductive PortfolioPc
  | idle
  | filling (pc : FillPc)
  /-- `update_prices` with so many positions left to persist. -/
  | persistingPrices (left : ℕ)

/-- The call has run to its end. -/
def PortfolioPc.Finished : PortfolioPc → Prop
  | .filling .returned => True
  | .filling .raised => True
  | .persistingPrices 0 => True
  | _ => False

instance (pc : PortfolioPc) : Decidable pc.Finished := by
  unfold PortfolioPc.Finished
  split <;> infer_instance

/-- The call has ended with an exception. -/
def PortfolioPc.hasRaised : PortfolioPc → Bool
  | .filling .raised => true
  | _ => false

/-- The call has taken effect on the books. -/
def PortfolioPc.Effective : PortfolioPc → Prop
  | .idle => False
  | .filling (.persistingTrade _ _ _) => False
  | _ => True

/-- The number of positions that `update_prices` persists. -/
def repricedCount (prices : String → Option ℚ) (s : PortfolioState) : ℕ :=
  (s.positions.values.filter fun p => (prices p.symbol.ccxtSymbol).isSome).length

/-- A call from one suspension to the next. -/
def portfolioSegment (cfg : PortfolioConfig) (job : PortfolioJob) :
    Segment PortfolioState PortfolioPc Unit :=
  fun s pc _ =>
    match pc, job with
    | .idle, .fill f => some ((fillStart cfg f s).1, .filling (fillStart cfg f s).2)
    | .idle, .prices prices =>
        some (updatePrices prices s, .persistingPrices (repricedCount prices s))
    | .filling pc, _ => (fillResume cfg s pc).map fun r => (r.1, .filling r.2)
    | .persistingPrices (n + 1), _ => some (s, .persistingPrices n)
    | .persistingPrices 0, _ => none

@[simp] theorem portfolioSegment_filling (cfg : PortfolioConfig) (job : PortfolioJob)
    (s : PortfolioState) (pc : FillPc) :
    portfolioSegment cfg job s (.filling pc) () =
      (fillResume cfg s pc).map fun r => (r.1, .filling r.2) := by
  cases job <;> rfl

/-- The calls of a portfolio engine as one machine. -/
abbrev portfolioMachine {ι : Type*} [DecidableEq ι] (cfg : PortfolioConfig)
    (job : ι → PortfolioJob) : Machine (Pool ι PortfolioState PortfolioPc) (ι × Unit) :=
  Pool.machine fun i => portfolioSegment cfg (job i)

/-- The pool in which no call has started. -/
def portfolioStart {ι : Type*} (s : PortfolioState) : Pool ι PortfolioState PortfolioPc :=
  ⟨s, fun _ => .idle⟩

/-- The protection that a handler will store: the fill, the position it opened and the
position of the hook. -/
def pendingProtection (cfg : PortfolioConfig) :
    PortfolioPc → Option (FillCall × Position × Position)
  | .filling (.persistingOpen f opened) =>
      (protectedPosition cfg f opened).map fun q => (f, opened, q)
  | .filling (.protecting f opened) =>
      (protectedPosition cfg f opened).map fun q => (f, opened, q)
  | _ => none

/-- The close that a handler will book, with the position as it was read. -/
def pendingClose : PortfolioPc → Option (FillCall × Position × CloseQuote)
  | .filling (.persistingTrade f existing q) => some (f, existing, q)
  | _ => none

/-- The closed position whose protective order ids a handler will remember. -/
def pendingRetire : PortfolioPc → Option Position
  | .filling (.persistingClose existing) => some existing
  | _ => none

/-- What a segment of a call can do. The constructors that read or write the books are
those of the open and the close; all others leave books and pending work alone. -/
inductive PortfolioStep (cfg : PortfolioConfig) (job : PortfolioJob) (s : PortfolioState) :
    PortfolioPc → PortfolioState → PortfolioPc → Prop
  | ignored {f : FillCall} (hjob : job = .fill f) (hprice : acceptedPrice f.result = none) :
      PortfolioStep cfg job s .idle s (.filling .returned)
  | sameSide {f : FillCall} {price : ℚ} {existing : Position} (hjob : job = .fill f)
      (hprice : acceptedPrice f.result = some price)
      (hget : s.positions.get? f.key = some existing)
      (hside : isClosing existing (inferSide f.result) = false) :
      PortfolioStep cfg job s .idle s.updatePeak (.filling .returned)
  | dropped {f : FillCall} {price : ℚ} (hjob : job = .fill f)
      (hprice : acceptedPrice f.result = some price)
      (hget : s.positions.get? f.key = none)
      (hretired : f.result.exchangeOrderId ∈ s.retiredOrderIds) :
      PortfolioStep cfg job s .idle
        { s with retiredOrderIds := s.retiredOrderIds.erase f.result.exchangeOrderId }
        (.filling .returned)
  | opened {f : FillCall} {price : ℚ} (hjob : job = .fill f)
      (hprice : acceptedPrice f.result = some price)
      (hget : s.positions.get? f.key = none)
      (hretired : f.result.exchangeOrderId ∉ s.retiredOrderIds) :
      PortfolioStep cfg job s .idle (bookOpen cfg f price s)
        (.filling (.persistingOpen f (openedPosition cfg f price)))
  | read {f : FillCall} {price : ℚ} {existing : Position} (hjob : job = .fill f)
      (hprice : acceptedPrice f.result = some price)
      (hget : s.positions.get? f.key = some existing)
      (hside : isClosing existing (inferSide f.result) = true) :
      PortfolioStep cfg job s .idle
        (recordTrade cfg existing (closeQuote existing f price s) f s)
        (.filling (.persistingTrade f existing (closeQuote existing f price s)))
  | repriced {prices : String → Option ℚ} (hjob : job = .prices prices) :
      PortfolioStep cfg job s .idle (updatePrices prices s)
        (.persistingPrices (repricedCount prices s))
  | continued {pc pc' : PortfolioPc} {t : PortfolioState} (hbooks : SameBooks s t)
      (heffective : pc.Effective) (heffective' : pc'.Effective)
      (hraised : pc'.hasRaised = false)
      (hprotection : pendingProtection cfg pc' = pendingProtection cfg pc)
      (hclose : pendingClose pc = none) (hclose' : pendingClose pc' = none)
      (hretire : pendingRetire pc = none) (hretire' : pendingRetire pc' = none) :
      PortfolioStep cfg job s pc t pc'
  | attached {f : FillCall} {opened q : Position}
      (hq : protectedPosition cfg f opened = some q) :
      PortfolioStep cfg job s (.filling (.protecting f opened))
        { s with positions := s.positions.set f.key q } (.filling .persistingProtected)
  | raised {f : FillCall} {existing : Position} {q : CloseQuote}
      (hbook : bookClose existing q f s = none) :
      PortfolioStep cfg job s (.filling (.persistingTrade f existing q)) s (.filling .raised)
  | closed {f : FillCall} {existing : Position} {q : CloseQuote} {t : PortfolioState}
      (hbook : bookClose existing q f s = some t) (hfull : q.full existing) :
      PortfolioStep cfg job s (.filling (.persistingTrade f existing q)) t
        (.filling (.persistingClose existing))
  | reduced {f : FillCall} {existing : Position} {q : CloseQuote} {t : PortfolioState}
      (hbook : bookClose existing q f s = some t) (hnot : ¬ q.full existing) :
      PortfolioStep cfg job s (.filling (.persistingTrade f existing q)) t
        (.filling .persistingPartial)
  | retired {existing : Position} {t : PortfolioState} {pc' : PortfolioPc}
      (hbooks : SameBooks (retire existing s) t)
      (hpc : pc' = .filling .unprotecting ∨ pc' = .filling .returned) :
      PortfolioStep cfg job s (.filling (.persistingClose existing)) t pc'

/-- Where a step can change the slot of a symbol: prices only re-value it, an open finds
it empty, and otherwise a hook or a close writes it. -/
theorem PortfolioStep.get?_cases {cfg : PortfolioConfig} {job : PortfolioJob}
    {s t : PortfolioState} {pc pc' : PortfolioPc} (h : PortfolioStep cfg job s pc t pc')
    (key : String) :
    t.positions.get? key = s.positions.get? key ∨
      (∃ prices, t.positions.get? key =
        (s.positions.get? key).map (Position.atPrices prices)) ∨
      s.positions.get? key = none ∨
      (∃ f opened, pc = .filling (.protecting f opened) ∧
        (protectedPosition cfg f opened).isSome ∧ f.key = key) ∨
      ∃ f existing q, pc = .filling (.persistingTrade f existing q) ∧ f.key = key := by
  cases h with
  | ignored => exact .inl rfl
  | sameSide => exact .inl (by rw [PortfolioState.updatePeak_positions])
  | dropped => exact .inl rfl
  | @opened f price hjob hprice hget hretired =>
      by_cases hk : key = f.key
      · exact .inr (.inr (.inl (hk ▸ hget)))
      · refine .inl ?_
        rw [(writes_bookOpen cfg f price s).stores, if_neg hk]
  | read => exact .inl rfl
  | @repriced prices hjob => exact .inr (.inl ⟨prices, get?_updatePrices prices s key⟩)
  | continued hbooks => exact .inl (by rw [hbooks.positions])
  | @attached f opened q hq =>
      by_cases hk : key = f.key
      · exact .inr (.inr (.inr (.inl ⟨f, opened, rfl, by rw [hq]; rfl, hk.symm⟩)))
      · exact .inl (Dict.get?_set_of_ne _ hk q)
  | raised => exact .inl rfl
  | @closed f existing q t hbook hfull =>
      by_cases hk : key = f.key
      · exact .inr (.inr (.inr (.inr ⟨f, existing, q, rfl, hk.symm⟩)))
      · refine .inl ?_
        rw [(stores_bookClose hbook), if_neg hk]
  | @reduced f existing q t hbook hnot =>
      by_cases hk : key = f.key
      · exact .inr (.inr (.inr (.inr ⟨f, existing, q, rfl, hk.symm⟩)))
      · refine .inl ?_
        rw [(stores_bookClose hbook), if_neg hk]
  | retired hbooks =>
      have hpositions : t.positions = s.positions := hbooks.positions
      exact .inl (by rw [hpositions])

theorem portfolioStep_of_fillStart (cfg : PortfolioConfig) (f : FillCall)
    (s : PortfolioState) :
    PortfolioStep cfg (.fill f) s .idle (fillStart cfg f s).1
      (.filling (fillStart cfg f s).2) := by
  unfold fillStart
  cases hprice : acceptedPrice f.result with
  | none => exact .ignored rfl hprice
  | some price =>
      cases hget : s.positions.get? f.key with
      | none =>
          by_cases hretired : f.result.exchangeOrderId ∈ s.retiredOrderIds
          · simpa [hretired] using PortfolioStep.dropped rfl hprice hget hretired
          · simpa [hretired] using PortfolioStep.opened rfl hprice hget hretired
      | some existing =>
          by_cases hside : isClosing existing (inferSide f.result) = true
          · simpa [hside] using PortfolioStep.read rfl hprice hget hside
          · rw [Bool.not_eq_true] at hside
            simpa [hside] using PortfolioStep.sameSide rfl hprice hget hside

theorem protectedPosition_of_none {cfg : PortfolioConfig} (h : ¬ cfg.protection.isSome)
    (f : FillCall) (p : Position) : protectedPosition cfg f p = none := by
  rw [protectedPosition, Option.not_isSome_iff_eq_none.1 h, Option.bind_none]

theorem portfolioStep_of_fillResume {cfg : PortfolioConfig} {job : PortfolioJob}
    {s t : PortfolioState} {pc pc' : FillPc} (h : fillResume cfg s pc = some (t, pc')) :
    PortfolioStep cfg job s (.filling pc) t (.filling pc') := by
  cases pc with
  | persistingOpen f opened =>
      simp only [fillResume] at h
      split at h
      · cases h
        exact .continued (.refl s) trivial trivial rfl rfl rfl rfl rfl rfl
      · rename_i hook
        cases h
        refine .continued (.updatePeak s) trivial trivial rfl ?_ rfl rfl rfl rfl
        rw [pendingProtection, protectedPosition_of_none hook]
        rfl
  | protecting f opened =>
      simp only [fillResume] at h
      split at h
      · rename_i q hq
        cases h
        exact .attached hq
      · rename_i hnone
        cases h
        refine .continued (.updatePeak s) trivial trivial rfl ?_ rfl rfl rfl rfl
        rw [pendingProtection, hnone]
        rfl
  | persistingProtected =>
      cases h
      exact .continued (.updatePeak s) trivial trivial rfl rfl rfl rfl rfl rfl
  | persistingTrade f existing q =>
      simp only [fillResume] at h
      split at h
      · rename_i hbook
        cases h
        exact .raised hbook
      · rename_i u hbook
        cases h
        split
        · exact .closed hbook ‹_›
        · exact .reduced hbook ‹_›
  | persistingPartial =>
      cases h
      exact .continued (.updatePeak s) trivial trivial rfl rfl rfl rfl rfl rfl
  | persistingClose existing =>
      simp only [fillResume] at h
      split at h
      · cases h
        exact .retired (.refl _) (.inl rfl)
      · cases h
        exact .retired (.updatePeak _) (.inr rfl)
  | unprotecting =>
      cases h
      exact .continued (.updatePeak s) trivial trivial rfl rfl rfl rfl rfl rfl
  | returned => cases h
  | raised => cases h

theorem portfolioStep_of_segment {cfg : PortfolioConfig} {job : PortfolioJob}
    {s t : PortfolioState} {pc pc' : PortfolioPc}
    (h : portfolioSegment cfg job s pc () = some (t, pc')) :
    PortfolioStep cfg job s pc t pc' := by
  cases pc with
  | idle =>
      cases job with
      | fill f =>
          cases h
          exact portfolioStep_of_fillStart cfg f s
      | prices prices =>
          cases h
          exact .repriced rfl
  | filling pc =>
      rw [portfolioSegment_filling, Option.map_eq_some_iff] at h
      obtain ⟨⟨u, pc''⟩, hresume, heq⟩ := h
      cases heq
      exact portfolioStep_of_fillResume hresume
  | persistingPrices n =>
      cases n with
      | zero => cases job <;> cases h
      | succ n =>
          have hstep : portfolioSegment cfg job s (.persistingPrices (n + 1)) () =
              some (s, .persistingPrices n) := by
            cases job <;> rfl
          rw [hstep] at h
          cases h
          exact .continued (.refl s) trivial trivial rfl rfl rfl rfl rfl rfl

/-- A call that runs without interruption. -/
def serial (cfg : PortfolioConfig) : PortfolioJob → PortfolioState → Option PortfolioState
  | .fill f, s => onOrderFilled cfg f s
  | .prices prices, s => some (updatePrices prices s)

/-- After it has opened a position, an uninterrupted handler attaches the protection
and returns. -/
theorem alone_persistingOpen (cfg : PortfolioConfig) (job : PortfolioJob) (f : FillCall)
    (opened : Position) (s : PortfolioState) :
    ∃ n, Pool.alone (portfolioSegment cfg job) () n s
        (.filling (.persistingOpen f opened)) =
      some ((protect cfg f opened s).updatePeak, .filling .returned) := by
  unfold protect
  by_cases hook : cfg.protection.isSome
  · cases h : protectedPosition cfg f opened with
    | none =>
        refine ⟨2, ?_⟩
        simp [fillResume, hook, h, Pool.alone]
    | some q =>
        refine ⟨3, ?_⟩
        simp [fillResume, hook, h, Pool.alone]
  · have hnone := protectedPosition_of_none hook f opened
    refine ⟨1, ?_⟩
    simp [fillResume, hook, hnone, Pool.alone]

/-- After it has recorded the trade, an uninterrupted handler books the close and
returns. -/
theorem alone_persistingTrade (cfg : PortfolioConfig) (job : PortfolioJob) (f : FillCall)
    (existing : Position) (q : CloseQuote) {s t : PortfolioState}
    (h : bookClose existing q f s = some t) :
    ∃ n, Pool.alone (portfolioSegment cfg job) () n s
        (.filling (.persistingTrade f existing q)) =
      some ((if q.full existing then retire existing t else t).updatePeak,
        .filling .returned) := by
  by_cases hfull : q.full existing
  · by_cases hook : cfg.protection.isSome
    · refine ⟨3, ?_⟩
      simp [fillResume, h, hfull, hook, Pool.alone]
    · refine ⟨2, ?_⟩
      simp [fillResume, h, hfull, hook, Pool.alone]
  · refine ⟨2, ?_⟩
    simp [fillResume, h, hfull, Pool.alone]

/-- A handler that is not interrupted is `onOrderFilled`. -/
theorem alone_fillStart (cfg : PortfolioConfig) (f : FillCall) (s : PortfolioState) :
    ∃ n t, onOrderFilled cfg f s = some t ∧
      Pool.alone (portfolioSegment cfg (.fill f)) () n s .idle =
        some (t, .filling .returned) := by
  suffices h : ∃ n t, onOrderFilled cfg f s = some t ∧
      Pool.alone (portfolioSegment cfg (.fill f)) () n (fillStart cfg f s).1
        (.filling (fillStart cfg f s).2) = some (t, .filling .returned) by
    obtain ⟨n, t, ht, hrun⟩ := h
    exact ⟨n + 1, t, ht, hrun⟩
  unfold onOrderFilled fillStart
  cases hprice : acceptedPrice f.result with
  | none => exact ⟨0, s, rfl, rfl⟩
  | some price =>
      cases hget : s.positions.get? f.key with
      | none =>
          by_cases hretired : f.result.exchangeOrderId ∈ s.retiredOrderIds
          · refine ⟨0, _, if_pos hretired, ?_⟩
            simp [hretired, Pool.alone]
          · obtain ⟨n, hn⟩ := alone_persistingOpen cfg (.fill f) f
              (openedPosition cfg f price) (bookOpen cfg f price s)
            refine ⟨n, _, if_neg hretired, ?_⟩
            simpa [hretired, openPosition] using hn
      | some existing =>
          by_cases hclosing : isClosing existing (inferSide f.result)
          · set q := closeQuote existing f price s with hq
            have hget' : (recordTrade cfg existing q f s).positions.get? f.key =
              some existing := hget
            obtain ⟨t, ht, -⟩ := writes_bookClose existing q hget'
            obtain ⟨n, hn⟩ := alone_persistingTrade cfg (.fill f) f existing q ht
            refine ⟨n, (if q.full existing then retire existing t else t).updatePeak,
              ?_, ?_⟩
            · simp [updatePosition, hclosing, ← hq, ht]
            · simpa [hclosing, ← hq] using hn
          · refine ⟨0, s.updatePeak, ?_, ?_⟩
            · simp [updatePosition, hclosing]
            · simp [hclosing, Pool.alone]

theorem alone_persistingPrices (cfg : PortfolioConfig) (job : PortfolioJob) (n : ℕ)
    (s : PortfolioState) :
    Pool.alone (portfolioSegment cfg job) () n s (.persistingPrices n) =
      some (s, .persistingPrices 0) := by
  induction n with
  | zero => rfl
  | succ n ih => exact ih

/-- A call that is not interrupted is its serial meaning. -/
theorem run_alone {ι : Type*} [DecidableEq ι] (cfg : PortfolioConfig)
    (job : ι → PortfolioJob) (P : Pool ι PortfolioState PortfolioPc) {i : ι}
    (hidle : P.task i = .idle) :
    ∃ n t pc, serial cfg (job i) P.shared = some t ∧ pc.Finished ∧
      (portfolioMachine cfg job).run P (List.replicate n (i, ())) =
        some (P.resume i t pc) := by
  cases hjob : job i with
  | fill f =>
      obtain ⟨n, t, ht, hrun⟩ := alone_fillStart cfg f P.shared
      refine ⟨n, t, .filling .returned, ht, trivial, ?_⟩
      rw [Pool.run_replicate, hidle, hjob, hrun]
      rfl
  | prices prices =>
      refine ⟨repricedCount prices P.shared + 1, _, .persistingPrices 0, rfl, trivial, ?_⟩
      rw [Pool.run_replicate, hidle, hjob, Pool.alone_succ]
      change (Pool.alone _ () _ (updatePrices prices P.shared) _).map _ = _
      rw [alone_persistingPrices]
      rfl

end Sgr
