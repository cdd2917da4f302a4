import Sgr.Orchestrator.Accounts

/-!
# The accounts after a segment of a call

Each segment of `execute` keeps the accounts of the cycles in order, as long as the adapters
answer truthfully and a fill is found only while nobody has booked it or is to book it.
-/

open Collection Concurrency Accounting

namespace Sgr

variable {ι : Type*} [DecidableEq ι] {order : ι → OrderRequest} {T U : TradingState ι} {i : ι}

variable {cfg : EngineConfig} {p q : CallPc} {e : CallEvent} {about : ι} {s : EngineState}

theorem updateStatus_orders (t : ExecutorState) (id id' : UUID) (r : OrderResult) :
    (t.updateStatus id r).orders id' =
      if id' = id then (t.orders id).map fun row => row.update r else t.orders id' := by
  unfold ExecutorState.updateStatus
  split
  next row hrow => rw [ExecutorState.putRow_orders, hrow, Option.map_some]
  next hrow =>
    by_cases hid : id' = id
    · rw [if_pos hid, hid, hrow, Option.map_none]
    · rw [if_neg hid]

theorem record_writer_of_ne {id : UUID} (h : p.updates (order i) e ≠ some id) :
    (T.record (order i) i p e q about).writer id = T.writer id := by
  unfold TradingState.record
  cases hid : p.updates (order i) e with
  | none => rfl
  | some id' =>
      refine Function.update_of_ne ?_ _ _
      rintro rfl
      exact h hid

theorem record_writer_of_updates {id : UUID} (h : p.updates (order i) e = some id) :
    (T.record (order i) i p e q about).writer id = T.about i := by
  unfold TradingState.record
  rw [h]
  exact Function.update_self id _ _

omit [DecidableEq ι] in
/-- The result that a call stores in a row. -/
theorem ExecutingOk.stored (hT : Accounted order T) (htask : T.task i = .executing p)
    {id : UUID} {r : OrderResult}
    (hp : (id = (order i).id ∧ ∃ a raised, p = .safe a (.persistFinal r raised)) ∨
      p = .persisting id r) (howner : ∃ k, (order k).id = id) (hstatus : r.status = .filled) :
    ∃ j ∈ T.about i, j ∈ T.submitted ∧ (order j).id = id ∧ r.filledQuantity ≤ T.filled j := by
  have hok : ExecutingOk order T i p := hT.executing htask
  have hres : ResultOf order T i (if p.books then T.about i else none) r ∧
      id = (order i).id := by
    rcases hp with ⟨hid, a, raised, rfl⟩ | rfl
    · exact ⟨hok.results.1, hid⟩
    · refine ⟨hok.results.1, ?_⟩
      rcases hok.results.2 with hid | ⟨hid, -⟩
      · exact hid
      · -- the request of the answer has a row, so it is that of the order
        rcases hok.results.1.requestId (by simp [hstatus]) with hreq | hreq
        · exact hid.trans hreq
        · obtain ⟨k, hk⟩ := howner
          exact absurd (hid.symm.trans hk.symm) (hreq k)
  obtain ⟨hres, rfl⟩ := hres
  obtain ⟨j, hj, hof⟩ := hres.fill (by rw [hstatus]; rfl)
  have hbooks : p.books = true := by
    by_contra hbooks
    rw [if_neg hbooks] at hj
    cases hj
  rw [if_pos hbooks] at hj
  have hcarries : T.carries i = some j := by
    rw [TradingState.carries, htask, CyclePc.claim, if_pos (by simp [hbooks])]
    exact hj
  exact ⟨j, hj, hT.vouchers.held_issued i j hcarries, hof.id, hof.quantity⟩

/-- The rows of the table after a segment of a call. -/
theorem rows_record (hT : Accounted order T) (htask : T.task i = .executing p)
    (h : TableStep (order i) T.engine p e s) (id : UUID) (row : OrderRow)
    (hrow : s.safety.orders id = some row) :
    RowOk order { T.record (order i) i p e q about with engine := s } id row := by
  have hsubmitted : ∀ j ∈ T.submitted, j ∈ (T.record (order i) i p e q about).submitted := by
    intro j hj
    change j ∈ if q.isSubmitting then i :: T.submitted else T.submitted
    split
    · exact List.mem_cons_of_mem i hj
    · exact hj
  have hold : ∀ id' row', p.updates (order i) e ≠ some id' →
      T.engine.safety.orders id' = some row' →
        RowOk order { T.record (order i) i p e q about with engine := s } id' row' := by
    intro id' row' hid' hrow'
    have hwriter : (T.record (order i) i p e q about).writer id' = T.writer id' :=
      record_writer_of_ne hid'
    exact (hT.rows id' row' hrow').mono (fun _ => le_refl _) hwriter hsubmitted
  cases h with
  | same hupdates horders => exact hold id row (by simp [hupdates]) (horders ▸ hrow)
  | inserts a hupdates horders =>
      rw [horders, ExecutorState.putRow_orders] at hrow
      split at hrow
      next hid =>
        cases hrow
        exact ⟨⟨i, hid.symm⟩, rfl, fun hstatus => by cases hstatus⟩
      next => exact hold id row (by simp [hupdates]) hrow
  | @updates id' r r' hupdates hp hstatus hfilled horders =>
      rw [horders, updateStatus_orders] at hrow
      split at hrow
      next hid =>
        subst hid
        obtain ⟨row', hrow', rfl⟩ := Option.map_eq_some_iff.1 hrow
        have hok := hT.rows id row' hrow'
        refine ⟨hok.owner, hok.side, fun hfill => ?_⟩
        obtain ⟨j, hj, hissued, hid, hle⟩ :=
          ExecutingOk.stored hT htask hp hok.owner (hstatus.symm.trans hfill)
        have hwriter : (T.record (order i) i p e q about).writer id = T.about i :=
          record_writer_of_updates hupdates
        refine ⟨j, hwriter.trans hj, hsubmitted j hissued, hid, ?_⟩
        · change r'.filledQuantity ≤ T.filled j
          rw [hfilled]
          exact hle
      next hid =>
        refine hold id row ?_ hrow
        rw [hupdates]
        exact fun h => hid (Option.some.inj h).symm

/-- The state after a segment of the call `i`, before its cycle has come to its next control
point. -/
def between (order : ι → OrderRequest) (T : TradingState ι) (i : ι) (p : CallPc)
    (e : CallEvent) (q : CallPc) (about : ι) (s : EngineState) : TradingState ι :=
  { T.record (order i) i p e q about with engine := s }

theorem between_about_self :
    (between order T i p e q about s).about i = T.aboutAfter (order i) i p e q about :=
  Function.update_self i _ _

theorem between_about_of_ne {j : ι} (hj : j ≠ i) :
    (between order T i p e q about s).about j = T.about j :=
  Function.update_of_ne hj _ _

theorem handing_between (about : ι) (mid : Option ι) (hT : Accounted order T)
    (htask : T.task i = .executing p) (htable : TableStep (order i) T.engine p e s)
    (hsound : Vouchers.Sound ⟨if q.isSubmitting then i :: T.submitted else T.submitted,
      Function.update T.carries i mid, T.booked.map BookedFill.source⟩) :
    Handing order (between order T i p e q about s) i mid where
  vouchers := by
    have hcarries : Function.update (between order T i p e q about s).carries i mid =
        Function.update T.carries i mid := by
      funext j
      by_cases hj : j = i
      · subst hj
        rw [Function.update_self, Function.update_self]
      · rw [Function.update_of_ne hj, Function.update_of_ne hj, TradingState.carries,
          between_about_of_ne hj]
        rfl
    rw [hcarries]
    exact hsound
  filled := hT.filled
  tasks j hj := by
    refine (hT.tasks j).frame (fun _ => le_refl _) (between_about_of_ne hj) fun hmem => ?_
    change j ∈ (if q.isSubmitting then i :: T.submitted else T.submitted) at hmem
    split at hmem
    · exact (List.mem_cons.1 hmem).resolve_left hj
    · exact hmem
  rows := rows_record hT htask htable
  booked b hb := (hT.booked b hb).mono fun _ => le_refl _

/-- What a segment of the call `i` leaves to its cycle. -/
structure Woken (order : ι → OrderRequest) (U : TradingState ι) (i : ι) (q : CallPc)
    (mid : Option ι) : Prop where
  handing : Handing order U i mid
  pending : q.answer = none →
    (CyclePc.executing q).claim (U.about i) = mid ∧ ExecutingOk order U i q
  about : ∀ j ∈ mid, U.about i = some j
  answered : ∀ r, q.answer = some (.returned r) → (acceptedPrice r).isSome = true →
    ∃ j ∈ mid, FillOf order U (order i).id j r.filledQuantity (inferSide r)

theorem isBooked_of_acceptedPrice {r : OrderResult} (h : (acceptedPrice r).isSome = true) :
    r.status.isBooked = true := by
  unfold acceptedPrice at h
  split at h
  · cases h
  next hstatus =>
    cases hr : r.status <;> first | rfl | simp [hr] at hstatus

theorem woken_looksUp (hT : Accounted order T) {a : Amount}
    (htask : T.task i = .executing (.safe a .lookup))
    (horders : s.safety.orders = T.engine.safety.orders)
    (hcond : ∀ j ∈ if (T.engine.safety.orders (order i).id).any OrderRow.isFill then
        T.writer (order i).id else none, (order j).side = .buy ∧ T.Unclaimed j) :
    ∃ mid, Woken order (between order T i (.safe a .lookup) (.safe .lookupAnswers)
      (.safe a (.lookedUp (T.engine.safety.orders (order i).id))) about s) i
      (.safe a (.lookedUp (T.engine.safety.orders (order i).id))) mid := by
  have hok : ExecutingOk order T i (.safe a .lookup) := hT.executing htask
  have hfound : ∀ row, T.engine.safety.orders (order i).id = some row →
      row.isFill = true → ∃ j ∈ T.writer (order i).id, j ∈ T.submitted ∧ T.Unclaimed j ∧
        FillOf order T (order i).id j row.filledQuantity .buy := by
    intro row hrow hfill
    have hstatus : row.status = .filled := by
      simp only [OrderRow.isFill, Bool.and_eq_true, decide_eq_true_eq] at hfill
      exact hfill.1.1
    obtain ⟨j, hj, hissued, hid, hle⟩ := (hT.rows _ row hrow).fill hstatus
    obtain ⟨hside, hfree⟩ := hcond j (by rw [hrow, if_pos (by exact hfill)]; exact hj)
    exact ⟨j, hj, hissued, hfree, hid, hle, hside.symm⟩
  have htable : TableStep (order i) T.engine (.safe a .lookup) (.safe .lookupAnswers) s :=
    .same rfl horders
  refine ⟨if (T.engine.safety.orders (order i).id).any OrderRow.isFill then
    T.writer (order i).id else none, ?_, ?_, ?_, ?_⟩
  · refine handing_between about _ hT htask htable ?_
    change Vouchers.Sound ⟨T.submitted, _, _⟩
    split
    next hany =>
      obtain ⟨row, hrow, hfill⟩ := (Option.any_eq_true _ _).1 hany
      obtain ⟨j, hj, hissued, hfree, -⟩ := hfound row hrow hfill
      rw [Option.mem_def.1 hj]
      refine hT.vouchers.give i hissued ?_ hfree.notCarried
      intro hmem
      obtain ⟨b, hb, hsource⟩ := List.mem_map.1 hmem
      exact hfree.notBooked b hb hsource
    next => exact hT.vouchers.drop i
  · intro _
    refine ⟨?_, trivial, fun _ => hok.notSubmitted rfl, (fun h => by cases h),
      (fun h => by cases h), fun row hrow => ?_⟩
    · rw [between_about_self]
      cases T.engine.safety.orders (order i).id with
      | none => rfl
      | some row => simp [CyclePc.claim, CallPc.foundRow, CallPc.books, SafePc.hasSubmitted,
          TradingState.aboutAfter]
    · have hrow : T.engine.safety.orders (order i).id = some row := hrow
      refine ⟨(hT.rows _ row hrow).side, fun hfill => ?_⟩
      obtain ⟨j, hj, -, -, hof⟩ := hfound row hrow hfill
      rw [between_about_self]
      exact ⟨j, hj, hof.mono fun _ => le_refl _⟩
  · intro j hj
    rw [between_about_self]
    split at hj
    · exact hj
    · cases hj
  · intro r h
    cases h

theorem woken_submits (hT : Accounted order T) {a : Amount} (htask : T.task i = .executing p)
    (hlookup : e ≠ .safe .lookupAnswers) (hp : p.holds = false)
    (hupdates : p.updates (order i) e = none)
    (horders : s.safety.orders = T.engine.safety.orders) :
    Woken order (between order T i p e (.safe a .submitting) about s) i (.safe a .submitting)
      (some i) := by
  have hok : ExecutingOk order T i p := hT.executing htask
  have habout : T.aboutAfter (order i) i p e (.safe a .submitting) about = some i := by
    unfold TradingState.aboutAfter
    split
    · exact absurd rfl hlookup
    · cases hp
    · rfl
  refine ⟨?_, fun _ => ⟨?_, trivial, ?_, ?_, ?_, ?_⟩, ?_, ?_⟩
  · exact handing_between about _ hT htask (.same hupdates horders)
      (hT.vouchers.move (.issue i (hok.notSubmitted hp)))
  · rw [between_about_self, habout]
    rfl
  · exact fun h => by cases h
  · exact fun _ => between_about_self.trans habout
  · intro _
    rw [between_about_self, habout]
    rfl
  · exact fun row h => by cases h
  · intro j hj
    rw [between_about_self, habout]
    exact hj
  · exact fun r h => by cases h

omit [DecidableEq ι] in
theorem ResultOf.of_truthful {j : ι} {r : OrderResult} (h : TruthfulAnswer order T i j r) :
    ResultOf order T i (some j) r where
  requestId _ := h.requestId
  fill hr := ⟨j, rfl, h.id, h.quantity hr, h.side hr⟩

omit [DecidableEq ι] in
theorem ResultOf.of_rejected {c : Option ι} {r : OrderResult} (h : r.status = .rejected) :
    ResultOf order T i c r where
  requestId hne := absurd h hne
  fill hr := by
    rw [h] at hr
    cases hr

omit [DecidableEq ι] in
theorem ResultOf.attributed {c : Option ι} {r : OrderResult} (h : ResultOf order T i c r) :
    ResultOf order T i c (attributed (order i) r) :=
  ⟨h.requestId, h.fill⟩

/-- The results of a call that goes on with an answer of the exchange about the order
`c`. -/
theorem woken_of_results {mid c : Option ι} (hT : Accounted order T)
    (htask : T.task i = .executing p)
    (hhanding : Handing order (between order T i p e q about s) i mid)
    (hmid : ∀ j ∈ mid, T.aboutAfter (order i) i p e q about = some j)
    (hclaim : q.answer = none →
      (if q.books then T.aboutAfter (order i) i p e q about else none) = mid)
    (hsome : q.answer = none → q.books = true → mid.isSome = true)
    (hholds : p.holds = true → q.holds = true ∨ q.answer.isSome = true)
    (hfound : q.foundRow = none) (hsubmitting : q.isSubmitting = false)
    (hresults : q.Results (order i) (ResultOf order T i c)) (hc : ∀ j ∈ c, j ∈ mid) :
    Woken order (between order T i p e q about s) i q mid := by
  have hok : ExecutingOk order T i p := hT.executing htask
  have hresults' : q.Results (order i)
      (ResultOf order (between order T i p e q about s) i mid) :=
    hresults.mono fun r hr => hr.mono (fun _ => le_refl _) hc
  refine ⟨hhanding, fun hanswer => ⟨?_, ?_, ?_, ?_, ?_, ?_⟩, ?_, ?_⟩
  · rw [between_about_self, CyclePc.claim, hfound, ← hclaim hanswer]
    rfl
  · rw [between_about_self, hclaim hanswer]
    exact hresults'
  · intro hq hmem
    have hp : p.holds = false := by
      by_contra hp
      rcases hholds (by simpa using hp) with h | h
      · simp [hq] at h
      · simp [hanswer] at h
    refine hok.notSubmitted hp ?_
    change i ∈ (if q.isSubmitting then i :: T.submitted else T.submitted) at hmem
    rw [hsubmitting] at hmem
    exact hmem
  · simp [hsubmitting]
  · intro hbooks
    have h := hsome hanswer hbooks
    rw [← hclaim hanswer, if_pos hbooks] at h
    rw [between_about_self]
    exact h
  · simp [hfound]
  · intro j hj
    rw [between_about_self]
    exact hmid j hj
  · intro r hanswer haccepted
    exact (hresults'.of_answer hanswer).fill (isBooked_of_acceptedPrice haccepted)

variable {bypass : Bool}

theorem woken_placed (hT : Accounted order T) {a : Amount} {r : OrderResult}
    (htask : T.task i = .executing (.safe a .submitting))
    (h : callSegment cfg (order i) bypass T.engine (.safe a .submitting)
      (.safe (.submitReturns r)) = some (s, q))
    (htruth : TruthfulAnswer order T i about r)
    (hcond : ∀ j ∈ if about = i then none else some about, T.Unclaimed j)
    (hq : q.books = true ∨ q.answer.isSome = true) (hfound : q.foundRow = none)
    (hsubmitting : q.isSubmitting = false) (horders : s.safety.orders = T.engine.safety.orders) :
    Woken order (between order T i (.safe a .submitting) (.safe (.submitReturns r)) q about s)
      i q (some about) := by
  have hok : ExecutingOk order T i (.safe a .submitting) := hT.executing htask
  have hcarries : T.carries i = some i := by
    rw [TradingState.carries, htask]
    exact hok.submitting rfl
  have hsound : Vouchers.Sound ⟨T.submitted, Function.update T.carries i (some about),
      T.booked.map BookedFill.source⟩ := by
    by_cases habout : about = i
    · rw [habout, ← hcarries, Function.update_eq_self]
      exact hT.vouchers
    · have hfree : T.Unclaimed about := hcond about (by rw [if_neg habout]; rfl)
      refine hT.vouchers.give i htruth.created (fun hmem => ?_) hfree.notCarried
      obtain ⟨b, hb, hsource⟩ := List.mem_map.1 hmem
      exact hfree.notBooked b hb hsource
  have hhanding := handing_between (q := q) (e := .safe (.submitReturns r)) about _ hT htask
    (.same rfl horders) (by rw [hsubmitting]; exact hsound)
  have hresults : q.Results (order i) (ResultOf order T i (some about)) := by
    refine results_of_callSegment (fun _ h => h.attributed) (fun _ h => .of_rejected h) h
      trivial ?_ ?_ ?_
    · rintro r' hr'
      cases hr'
      exact .of_truthful htruth
    · exact fun _ h => by cases h
    · exact fun _ h => by cases h
  refine woken_of_results hT htask hhanding ?_ ?_ ?_ ?_ hfound hsubmitting hresults fun j hj => hj
  · exact fun j hj => hj
  · intro hanswer
    rw [if_pos (hq.resolve_right (by simp [hanswer]))]
    rfl
  · exact fun _ _ => rfl
  · exact fun _ => hq.imp_left CallPc.holds_of_books

omit [DecidableEq ι] in
theorem aboutAfter_eq_self (hlookup : e ≠ .safe .lookupAnswers)
    (hplaced : ∀ r, e ≠ .safe (.submitReturns r)) (hsubmitting : q.isSubmitting = false) :
    T.aboutAfter (order i) i p e q about = T.about i := by
  unfold TradingState.aboutAfter
  split
  · exact absurd rfl hlookup
  · exact absurd rfl (hplaced _)
  · rw [hsubmitting]
    rfl

/-- A call that goes on with the result that it has. -/
theorem woken_moves (hT : Accounted order T) (htask : T.task i = .executing p)
    (h : callSegment cfg (order i) bypass T.engine p e = some (s, q))
    (htruth : ∀ r, e = .polled r → ∀ j ∈ T.about i, TruthfulAnswer order T i j r)
    (hlookup : e ≠ .safe .lookupAnswers) (hplaced : ∀ r, e ≠ .safe (.submitReturns r))
    (hbooks : q.books = true → p.books = true)
    (hkeeps : p.books = true → q.books = true ∨ q.answer.isSome = true ∨ p.isSubmitting = true)
    (hholds : p.holds = true → q.holds = true ∨ q.answer.isSome = true)
    (hfound : q.foundRow = none) (hrow : p.foundRow = none)
    (hsubmitting : q.isSubmitting = false) (htable : TableStep (order i) T.engine p e s) :
    ∃ mid, Woken order (between order T i p e q about s) i q mid := by
  have hok : ExecutingOk order T i p := hT.executing htask
  have habout : T.aboutAfter (order i) i p e q about = T.about i :=
    aboutAfter_eq_self hlookup hplaced hsubmitting
  have hcarries : T.carries i = if p.books then T.about i else none := by
    rw [TradingState.carries, htask, CyclePc.claim, hrow]
    rfl
  -- a submission that raises leaves a result about no order
  have hresults : q.Results (order i)
      (ResultOf order T i (if p.isSubmitting then none else T.carries i)) := by
    refine results_of_callSegment (fun _ h => h.attributed) (fun _ h => .of_rejected h) h
      ?_ (fun r hr => absurd hr (hplaced r)) ?_ ?_
    · cases hp : p.isSubmitting with
      | true =>
          obtain ⟨a, rfl⟩ := CallPc.exists_of_isSubmitting hp
          trivial
      | false =>
          rw [hcarries]
          exact hok.results
    · rintro r rfl
      have hpoll : p.books = true ∧ p.isSubmitting = false := by
        cases p <;> first | exact ⟨rfl, rfl⟩ | cases h
      obtain ⟨j, hj⟩ := Option.isSome_iff_exists.1 (hok.books hpoll.1)
      rw [hpoll.2, hcarries, hpoll.1, if_neg Bool.false_ne_true, if_pos rfl, hj]
      exact .of_truthful (htruth r rfl j hj)
    · simp [hrow]
  have hhanding := handing_between (q := q) (e := e) about
    (if q.answer.isSome || q.books then T.carries i else none) hT htask htable
  refine ⟨_, woken_of_results hT htask (hhanding ?_) ?_ ?_ ?_ hholds hfound hsubmitting hresults ?_⟩
  · rw [if_neg (by simp [hsubmitting])]
    split
    · rw [Function.update_eq_self]
      exact hT.vouchers
    · exact hT.vouchers.drop i
  · intro j hj
    rw [habout]
    split at hj
    · rw [hcarries] at hj
      split at hj
      · exact hj
      · cases hj
    · cases hj
  · intro hanswer
    rw [habout, hanswer]
    cases hq : q.books with
    | true => rw [hcarries, hbooks hq]; rfl
    | false => rfl
  · intro hanswer hq
    rw [hq, Bool.or_true, if_pos rfl, hcarries, if_pos (hbooks hq)]
    exact hok.books (hbooks hq)
  · intro j hj
    split at hj
    · cases hj
    next hp =>
      have hp' : p.books = true := by
        rw [hcarries] at hj
        split at hj
        next hp' => exact hp'
        next => cases hj
      have hgo : (q.answer.isSome || q.books) = true := by
        rcases hkeeps hp' with hq | hq | hq
        · simp [hq]
        · simp [hq]
        · exact absurd hq hp
      rw [hgo]
      exact hj

theorem inferSide_of_none {r : OrderResult} (h : r.rawResponse.side = none) :
    inferSide r = .buy := by
  rw [inferSide, h]
  decide +kernel

/-- A recovered result that the portfolio accepts is that of a filled row. -/
theorem isFill_of_acceptedPrice {row : OrderRow} {o : OrderRequest}
    (h : (acceptedPrice (recoveredResult row o)).isSome = true) :
    row.isFill = true ∧ (recoveredResult row o).filledQuantity = row.filledQuantity ∧
      (recoveredResult row o).rawResponse.side = row.rawResponse.side := by
  have hbooked := isBooked_of_acceptedPrice h
  obtain ⟨price, hprice⟩ := Option.isSome_iff_exists.1 h
  have hpos := filledQuantity_pos_of_acceptedPrice hprice
  unfold recoveredResult at h hbooked hpos ⊢
  split at h
  next hterminal =>
    rw [if_pos hterminal] at hbooked hpos ⊢
    have hstatus : row.status = .filled := by
      change row.status.isBooked = true at hbooked
      cases hrow : row.status <;> rw [hrow] at hbooked hterminal <;>
        first | rfl | exact absurd hterminal (by decide) | cases hbooked
    have hsome : row.averageFillPrice.isSome = true := by
      unfold acceptedPrice at h
      rw [if_neg (by simp [resultFromDbRow, hstatus]), if_neg (not_le.2 hpos)] at h
      exact h
    have hquantity : 0 < row.filledQuantity := hpos
    refine ⟨?_, rfl, rfl⟩
    simp [OrderRow.isFill, hstatus, hsome, hquantity]
  next hterminal =>
    rw [if_neg hterminal] at hbooked
    cases hbooked

/-- A call whose look-up has found a row answers with it. -/
theorem woken_recovered (hT : Accounted order T) {row : OrderRow}
    (htask : T.task i = .executing p) (hrow : p.foundRow = some row)
    (h : callSegment cfg (order i) bypass T.engine p e = some (s, q))
    (hlookup : e ≠ .safe .lookupAnswers) (hplaced : ∀ r, e ≠ .safe (.submitReturns r))
    (hanswer : q.answer.isSome = true) (hsubmitting : q.isSubmitting = false)
    (htable : TableStep (order i) T.engine p e s) :
    ∃ mid, Woken order (between order T i p e q about s) i q mid := by
  have hok : ExecutingOk order T i p := hT.executing htask
  have habout : (between order T i p e q about s).about i = T.about i :=
    between_about_self.trans (aboutAfter_eq_self hlookup hplaced hsubmitting)
  have hcarries : T.carries i = if row.isFill then T.about i else none := by
    have hbooks : p.books = false := by
      cases p with
      | safe a p => cases p <;> first | rfl | cases hrow
      | _ => cases hrow
    rw [TradingState.carries, htask, CyclePc.claim, hrow, hbooks]
    simp
  have hhanding := handing_between (q := q) (e := e) about (T.carries i) hT htask
    htable (by rw [if_neg (by simp [hsubmitting]), Function.update_eq_self]; exact hT.vouchers)
  refine ⟨_, hhanding, ?_, ?_, fun r hr => ?_⟩
  · intro hnone
    simp [hnone] at hanswer
  · intro j hj
    rw [habout]
    rw [hcarries] at hj
    split at hj
    · exact hj
    · cases hj
  · have hresults : q.Results (order i) fun r => (acceptedPrice r).isSome = true →
        ∃ j ∈ T.carries i, FillOf order T (order i).id j r.filledQuantity (inferSide r) := by
      refine results_of_callSegment (fun _ h => h) ?_ h ?_ (fun r hr => absurd hr (hplaced r))
        ?_ ?_
      · intro r hrejected haccepted
        have hbooked := isBooked_of_acceptedPrice haccepted
        rw [hrejected] at hbooked
        cases hbooked
      · cases p with
        | safe a p => cases p <;> trivial
        | _ => cases hrow
      · rintro r rfl
        cases p with
        | safe a p => cases h
        | _ => cases hrow
      · intro row' hrow' haccepted
        rw [hrow] at hrow'
        cases hrow'
        obtain ⟨hfill, hquantity, hside⟩ := isFill_of_acceptedPrice haccepted
        obtain ⟨hnone, hof⟩ := hok.found row hrow
        obtain ⟨j, hj, hof⟩ := hof hfill
        rw [hquantity, inferSide_of_none (hside.trans hnone), hcarries, if_pos hfill]
        exact ⟨j, hj, hof⟩
    intro haccepted
    obtain ⟨j, hj, hof⟩ := hresults.of_answer hr haccepted
    exact ⟨j, hj, hof.mono fun _ => le_refl _⟩

/-- Every segment of a call leaves the books in order. -/
theorem exists_woken (hT : Accounted order T) {ids : FillIds} (htask : T.task i = .executing p)
    (h : callSegment cfg (order i) bypass T.engine p e = some (s, q))
    (htruth : TruthfulAdapter order T (.wake i e ids about))
    (hcond : FindsUnclaimedFill order T (.wake i e ids about)) :
    ∃ mid, Woken order (between order T i p e q about s) i q mid := by
  have hok : ExecutingOk order T i p := hT.executing htask
  cases resultStep_of_callSegment hok.results h with
  | looksUp a hp he hq horders =>
      subst hp he hq
      exact woken_looksUp hT htask horders hcond.row
  | submits a hlookup hp hfound hq hupdates horders =>
      subst hq
      exact ⟨_, woken_submits hT htask hlookup hp hupdates horders⟩
  | placed a r hp he hq hfound hsubmitting horders =>
      subst hp he
      exact ⟨_, woken_placed hT htask h (htruth _ rfl) hcond.order hq hfound hsubmitting horders⟩
  | moves hlookup hplaced hbooks hkeeps hholds hfound hrow hsubmitting htable =>
      cases hrow' : p.foundRow with
      | none =>
          refine woken_moves hT htask h ?_ hlookup hplaced hbooks hkeeps hholds hfound hrow'
            hsubmitting htable
          rintro r rfl j hj
          exact htruth (i, j, r) (by rw [TradingState.answer, Option.mem_def.1 hj]; rfl)
      | some row =>
          exact woken_recovered hT htask hrow' h hlookup hplaced (hrow (by rw [hrow']; rfl))
            hsubmitting htable

theorem accounted_advance (hT : Accounted order T) {ids : FillIds} (pcfg : PortfolioConfig)
    (htask : T.task i = .executing p)
    (h : callSegment cfg (order i) bypass T.engine p e = some (s, q))
    (htruth : TruthfulAdapter order T (.wake i e ids about))
    (hcond : FindsUnclaimedFill order T (.wake i e ids about)) :
    Accounted order (T.advance pcfg (order i) i p e ids about s q) := by
  obtain ⟨mid, hwoken⟩ := exists_woken hT htask h htruth hcond
  unfold TradingState.advance
  dsimp only
  split
  next r hanswer =>
    exact hwoken.handing.answered pcfg r ids hwoken.about (hwoken.answered r hanswer)
  next => exact hwoken.handing.drop.next rfl trivial
  next hanswer =>
    obtain ⟨hclaim, hexec⟩ := hwoken.pending hanswer
    exact hwoken.handing.next hclaim hexec

end Sgr
