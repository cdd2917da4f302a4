import Sgr.Accounting.Vouchers
import Sgr.Orchestrator.Booking

/-!
# The accounts of the cycles

An order on the exchange is a voucher: the call that creates it holds it, its booking
redeems it, and a call that finds the filled row of an earlier one, or that `place_order`
answers with an order of an earlier one, takes it over. `Accounted` says that the vouchers
are in order and what is known of each cycle and of each row of the table; `Handing` says
the same while one cycle is between two control points.
-/

open Collection Concurrency Accounting

namespace Sgr

section Invariant

variable {ι : Type*} (order : ι → OrderRequest)

/-- The orders on the exchange, as vouchers of the calls that have created them. -/
def TradingState.vouchers (T : TradingState ι) : Vouchers ι ι :=
  ⟨T.submitted, T.carries, T.booked.map BookedFill.source⟩

/-- The order that `j` has created has this id and side, and at least this fill. -/
structure FillOf (T : TradingState ι) (id : UUID) (j : ι) (quantity : ℚ) (side : Side) :
    Prop where
  id : (order j).id = id
  quantity : quantity ≤ T.filled j
  side : side = (order j).side

/-- A result of the call `i` about the order `about`, if there is one. -/
structure ResultOf (T : TradingState ι) (i : ι) (about : Option ι) (r : OrderResult) :
    Prop where
  requestId : r.status ≠ .rejected →
    r.requestId = (order i).id ∨ ∀ k, r.requestId ≠ (order k).id
  fill : r.status.isBooked = true →
    ∃ j ∈ about, FillOf order T (order i).id j r.filledQuantity (inferSide r)

/-- What is known of a call. -/
structure ExecutingOk (T : TradingState ι) (i : ι) (p : CallPc) : Prop where
  results : p.Results (order i) (ResultOf order T i (if p.books then T.about i else none))
  notSubmitted : p.holds = false → i ∉ T.submitted
  submitting : p.isSubmitting = true → T.about i = some i
  books : p.books = true → (T.about i).isSome = true
  found : ∀ row, p.foundRow = some row → row.rawResponse.side = none ∧
    (row.isFill = true →
      ∃ j ∈ T.about i, FillOf order T (order i).id j row.filledQuantity .buy)

/-- What is known of a cycle. -/
def CycleOk (T : TradingState ι) (i : ι) : CyclePc ι → Prop
  | .executing p => ExecutingOk order T i p
  | .booking j (.persistingTrade f _ q) =>
      FillOf order T (order i).id j q.quantity (inferSide f.result)
  | _ => True

/-- What is known of a row. -/
structure RowOk (T : TradingState ι) (id : UUID) (row : OrderRow) : Prop where
  owner : ∃ i, (order i).id = id
  side : row.rawResponse.side = none
  fill : row.status = .filled → ∃ j ∈ T.writer id, j ∈ T.submitted ∧ (order j).id = id ∧
    row.filledQuantity ≤ T.filled j

/-- The books of the cycles. -/
structure Accounted (T : TradingState ι) : Prop where
  vouchers : T.vouchers.Sound
  filled : ∀ i, 0 ≤ T.filled i
  tasks : ∀ i, CycleOk order T i (T.task i)
  rows : ∀ id row, T.engine.safety.orders id = some row → RowOk order T id row
  booked : ∀ b ∈ T.booked, FillOf order T b.id b.source b.quantity b.side

variable {order} {T U : TradingState ι} {i : ι}

theorem BooksFillsOnce.of_accounted (h : Accounted order T) : BooksFillsOnce order T where
  quantity id := by
    refine sum_le_sum_of_nodup (f := BookedFill.source) ?_ ?_ ?_ fun v _ => h.filled v
    · exact h.vouchers.redeemed_nodup.sublist (List.filter_sublist.map _)
    · intro b hb
      obtain ⟨hb, hid⟩ := List.mem_filter.1 hb
      refine List.mem_filter.2 ⟨h.vouchers.redeemed_issued _ (List.mem_map_of_mem hb), ?_⟩
      rw [(h.booked b hb).id]
      exact hid
    · intro b hb
      exact (h.booked b (List.mem_of_mem_filter hb)).quantity
  once := h.vouchers.redeemed_nodup
  side b hb := (h.booked b hb).side

theorem accounted_tradingStart (verification : Option LiveVerificationState)
    (portfolio : PortfolioState) :
    Accounted order (tradingStart verification portfolio : TradingState ι) where
  vouchers := Vouchers.sound_init
  filled _ := le_refl _
  tasks i := by
    refine ⟨trivial, fun _ => List.not_mem_nil, ?_, ?_, ?_⟩
    · exact fun h => by cases h
    · exact fun h => by cases h
    · exact fun _ h => by cases h
  rows _ _ h := by cases h
  booked _ h := absurd h List.not_mem_nil

theorem FillOf.mono {id : UUID} {j : ι} {quantity : ℚ} {side : Side}
    (h : FillOf order T id j quantity side) (hfilled : ∀ j, T.filled j ≤ U.filled j) :
    FillOf order U id j quantity side :=
  ⟨h.id, h.quantity.trans (hfilled j), h.side⟩

theorem ResultOf.mono {about about' : Option ι} {r : OrderResult}
    (h : ResultOf order T i about r) (hfilled : ∀ j, T.filled j ≤ U.filled j)
    (habout : ∀ j ∈ about, j ∈ about') : ResultOf order U i about' r :=
  ⟨h.requestId, fun hr => by
    obtain ⟨j, hj, hfill⟩ := h.fill hr
    exact ⟨j, habout j hj, hfill.mono hfilled⟩⟩

/-- What is known of a cycle does not depend on the other cycles. -/
theorem CycleOk.frame {pc : CyclePc ι} (h : CycleOk order T i pc)
    (hfilled : ∀ j, T.filled j ≤ U.filled j) (habout : U.about i = T.about i)
    (hsubmitted : i ∈ U.submitted → i ∈ T.submitted) : CycleOk order U i pc := by
  cases pc with
  | executing p =>
      refine ⟨h.results.mono fun r hr => ?_, fun hp hi => h.notSubmitted hp (hsubmitted hi),
        ?_, ?_, fun row hrow => ⟨(h.found row hrow).1, fun hfill => ?_⟩⟩
      · rw [habout]
        exact hr.mono hfilled fun _ hj => hj
      · rw [habout]
        exact h.submitting
      · rw [habout]
        exact h.books
      · obtain ⟨j, hj, hof⟩ := (h.found row hrow).2 hfill
        exact ⟨j, habout ▸ hj, hof.mono hfilled⟩
  | booking j pc =>
      cases pc with
      | persistingTrade f existing q => exact FillOf.mono h hfilled
      | _ => trivial
  | done => trivial

theorem RowOk.mono {id : UUID} {row : OrderRow} (h : RowOk order T id row)
    (hfilled : ∀ j, T.filled j ≤ U.filled j) (hwriter : U.writer id = T.writer id)
    (hsubmitted : ∀ j ∈ T.submitted, j ∈ U.submitted) : RowOk order U id row :=
  ⟨h.owner, h.side, fun hstatus => by
    obtain ⟨j, hj, hissued, hid, hle⟩ := h.fill hstatus
    exact ⟨j, hwriter ▸ hj, hsubmitted j hissued, hid, hle.trans (hfilled j)⟩⟩

theorem Accounted.executing {p : CallPc} (h : Accounted order T)
    (htask : T.task i = .executing p) : ExecutingOk order T i p := by
  have hi := h.tasks i
  rw [htask] at hi
  exact hi

end Invariant

section Handing

variable {ι : Type*} [DecidableEq ι] {order : ι → OrderRequest} {T U : TradingState ι} {i : ι}

theorem carries_update {T U : TradingState ι} {pc : CyclePc ι}
    (htask : T.task = Function.update U.task i pc) (habout : ∀ j ≠ i, T.about j = U.about j) :
    T.carries = Function.update U.carries i (pc.claim (T.about i)) := by
  funext j
  by_cases hj : j = i
  · subst hj
    rw [Function.update_self, TradingState.carries, htask, Function.update_self]
  · rw [Function.update_of_ne hj, TradingState.carries, TradingState.carries, htask,
      Function.update_of_ne hj, habout j hj]

/-- The books while the cycle `i` is between two control points and has still to book the
order `mid`, if there is one. -/
structure Handing (order : ι → OrderRequest) (U : TradingState ι) (i : ι)
    (mid : Option ι) : Prop where
  vouchers : Vouchers.Sound
    ⟨U.submitted, Function.update U.carries i mid, U.booked.map BookedFill.source⟩
  filled : ∀ j, 0 ≤ U.filled j
  tasks : ∀ j ≠ i, CycleOk order U j (U.task j)
  rows : ∀ id row, U.engine.safety.orders id = some row → RowOk order U id row
  booked : ∀ b ∈ U.booked, FillOf order U b.id b.source b.quantity b.side

namespace Handing

variable {mid : Option ι} {pc : CyclePc ι} {portfolio : PortfolioState}

theorem of_accounted (h : Accounted order T) (i : ι) : Handing order T i (T.carries i) where
  vouchers := by
    rw [Function.update_eq_self]
    exact h.vouchers
  filled := h.filled
  tasks j _ := h.tasks j
  rows := h.rows
  booked := h.booked

/-- The cycle comes to its next control point. -/
theorem next (h : Handing order U i mid) (hclaim : pc.claim (U.about i) = mid)
    (hpc : CycleOk order U i pc) :
    Accounted order
      { U with portfolio := portfolio, task := Function.update U.task i pc } where
  vouchers := by
    have hcarries : ({ U with portfolio := portfolio, task := Function.update U.task i pc } :
        TradingState ι).carries = Function.update U.carries i (pc.claim (U.about i)) :=
      carries_update rfl fun _ _ => rfl
    rw [TradingState.vouchers, hcarries, hclaim]
    exact h.vouchers
  filled := h.filled
  tasks j := by
    dsimp only
    by_cases hj : j = i
    · subst hj
      rw [Function.update_self]
      exact hpc.frame (fun _ => le_refl _) rfl fun hj => hj
    · rw [Function.update_of_ne hj]
      exact (h.tasks j hj).frame (fun _ => le_refl _) rfl fun hj => hj
  rows id row hrow := (h.rows id row hrow).mono (fun _ => le_refl _) rfl fun _ hj => hj
  booked b hb := (h.booked b hb).mono fun _ => le_refl _

/-- The cycle has nothing to book any more. -/
theorem drop (h : Handing order U i mid) : Handing order U i none where
  vouchers := by
    have hdrop := h.vouchers.drop i
    rw [Function.update_idem] at hdrop
    exact hdrop
  filled := h.filled
  tasks := h.tasks
  rows := h.rows
  booked := h.booked

/-- The cycle books the order. -/
theorem book {j : ι} {b : BookedFill ι} (h : Handing order U i (some j)) (hb : b.source = j)
    (hfill : FillOf order U b.id b.source b.quantity b.side) :
    Handing order { U with booked := b :: U.booked } i none where
  vouchers := by
    have hmove := h.vouchers.move (.redeem (i := i) j (Function.update_self i (some j) U.carries))
    rw [Function.update_idem] at hmove
    rw [List.map_cons, hb]
    exact hmove
  filled := h.filled
  tasks k hk := (h.tasks k hk).frame (fun _ => le_refl _) rfl fun hk => hk
  rows id row hrow := (h.rows id row hrow).mono (fun _ => le_refl _) rfl fun _ hj => hj
  booked c hc := by
    rcases List.mem_cons.1 hc with rfl | hc
    · exact hfill.mono fun _ => le_refl _
    · exact (h.booked c hc).mono fun _ => le_refl _

/-- `execute` has answered: the fill is booked at once, handed to a handler that has still
to book it, or dropped. -/
theorem answered (h : Handing order U i mid) (pcfg : PortfolioConfig) (r : OrderResult)
    (ids : FillIds) (hmid : ∀ j ∈ mid, U.about i = some j)
    (hfill : (acceptedPrice r).isSome = true →
      ∃ j ∈ mid, FillOf order U (order i).id j r.filledQuantity (inferSide r)) :
    Accounted order (U.answered pcfg (order i) i ((U.about i).getD i) r ids) := by
  have hdone : ∀ {pc : CyclePc ι} {portfolio : PortfolioState}, pc.claim (U.about i) = none →
      CycleOk order U i pc → Accounted order
        { U with portfolio := portfolio, task := Function.update U.task i pc } :=
    fun hclaim hpc => h.drop.next hclaim hpc
  unfold TradingState.answered
  split
  next hbooked =>
    dsimp only
    unfold fillStart
    split
    next => exact hdone rfl trivial
    next price hprice =>
      obtain ⟨j, hj, hof⟩ := hfill (by rw [FillIds.call] at hprice; rw [hprice]; rfl)
      have habout : (U.about i).getD i = j := by rw [hmid j hj]; rfl
      rw [habout]
      obtain rfl : mid = some j := hj
      split
      next hget =>
        split
        next => exact hdone rfl trivial
        next =>
          have hbook := h.book (b := ⟨(order i).id, inferSide r, r.filledQuantity, j⟩) rfl hof
          exact hbook.next rfl trivial
      next existing hget =>
        split
        next =>
          refine h.next rfl ?_
          refine ⟨hof.id, le_trans ?_ hof.quantity, hof.side⟩
          exact min_le_left _ _
        next => exact hdone rfl trivial
  next => exact hdone rfl trivial

end Handing

end Handing

end Sgr
