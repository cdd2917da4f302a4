import Sgr.Collection.Dict
import Sgr.Concurrency.Pool
import Sgr.Core.Types

/-!
# The safe order executor

`SafeOrderExecutor.execute_safely` of `sgr/execution/order_safety.py`, cut at its
suspension points: the database look-up, the insertion of the pending row, the
exchange call and the final update of the row. `safeSegment` is the code between
two of them. A database access is two events, the moment at which the database
answers or commits and the moment at which the task resumes, because other tasks
run in between.

The list `submitted` is a ghost: it logs each start of `exchange_submit_fn`.
-/

open Collection Concurrency

namespace Sgr

/-- A row of the `orders` table. -/
structure OrderRow where
  exchangeOrderId : Option String
  side : Side
  quantity : ℚ
  status : OrderStatus
  filledQuantity : ℚ
  averageFillPrice : Option ℚ
  fees : ℚ
  rawResponse : RawResponse
  deriving DecidableEq, Repr

/-- What the executor and the database hold, and the log of submissions. -/
structure ExecutorState where
  /-- `_in_flight`, lost with the process. -/
  inFlight : Dict UUID OrderResult
  /-- The `orders` table, which survives the process. -/
  orders : UUID → Option OrderRow
  /-- The ids for which the exchange call was started, newest first. -/
  submitted : List UUID

namespace ExecutorState

/-- A fresh process on an empty table. -/
def init : ExecutorState := ⟨Dict.empty, fun _ => none, []⟩

/-- `_in_flight[order_key] = result`. -/
def track (s : ExecutorState) (k : UUID) (r : OrderResult) : ExecutorState :=
  { s with inFlight := s.inFlight.set k r }

/-- `_in_flight.pop(order_key, None)`, also the body of `release`. -/
def release (s : ExecutorState) (k : UUID) : ExecutorState :=
  { s with inFlight := s.inFlight.erase k }

/-- `update_inflight`: only a tracked order is updated. -/
def updateInflight (s : ExecutorState) (k : UUID) (r : OrderResult) : ExecutorState :=
  if (s.inFlight.get? k).isSome then s.track k r else s

/-- The exchange call for `k` starts. -/
def submit (s : ExecutorState) (k : UUID) : ExecutorState :=
  { s with submitted := k :: s.submitted }

/-- Writing a row of the table. -/
def putRow (s : ExecutorState) (k : UUID) (row : OrderRow) : ExecutorState :=
  { s with orders := Function.update s.orders k (some row) }

/-- A process restart: the map is gone, the table stays. -/
def restart (s : ExecutorState) : ExecutorState := { s with inFlight := Dict.empty }

variable (s : ExecutorState) (k k' : UUID) (r : OrderResult) (row : OrderRow)

@[simp] theorem track_inFlight : (s.track k r).inFlight = s.inFlight.set k r := rfl
@[simp] theorem track_orders : (s.track k r).orders = s.orders := rfl
@[simp] theorem track_submitted : (s.track k r).submitted = s.submitted := rfl
@[simp] theorem release_inFlight : (s.release k).inFlight = s.inFlight.erase k := rfl
@[simp] theorem release_orders : (s.release k).orders = s.orders := rfl
@[simp] theorem release_submitted : (s.release k).submitted = s.submitted := rfl
@[simp] theorem submit_inFlight : (s.submit k).inFlight = s.inFlight := rfl
@[simp] theorem submit_orders : (s.submit k).orders = s.orders := rfl
@[simp] theorem submit_submitted : (s.submit k).submitted = k :: s.submitted := rfl
@[simp] theorem putRow_inFlight : (s.putRow k row).inFlight = s.inFlight := rfl
@[simp] theorem putRow_submitted : (s.putRow k row).submitted = s.submitted := rfl
@[simp] theorem restart_orders : s.restart.orders = s.orders := rfl
@[simp] theorem restart_submitted : s.restart.submitted = s.submitted := rfl

@[simp] theorem putRow_orders :
    (s.putRow k row).orders k' = if k' = k then some row else s.orders k' := by
  by_cases h : k' = k
  · subst h
    simp [putRow]
  · simp [putRow, h]

@[simp] theorem updateInflight_orders : (s.updateInflight k r).orders = s.orders := by
  unfold updateInflight
  split <;> rfl

@[simp] theorem updateInflight_submitted :
    (s.updateInflight k r).submitted = s.submitted := by
  unfold updateInflight
  split <;> rfl

/-- Updating a tracked result never starts or ends the tracking of an order. -/
theorem updateInflight_isSome :
    ((s.updateInflight k r).inFlight.get? k').isSome = (s.inFlight.get? k').isSome := by
  unfold updateInflight
  split
  · rename_i h
    rw [track_inFlight, Dict.get?_set]
    by_cases hk : k' = k
    · subst hk
      simp [h]
    · rw [if_neg hk]
  · rfl

theorem get?_updateInflight_self {e : OrderResult} (h : s.inFlight.get? k = some e) :
    (s.updateInflight k r).inFlight.get? k = some r := by
  rw [updateInflight, if_pos (by simp [h])]
  exact s.inFlight.get?_set_self k r

theorem get?_updateInflight_of_ne (h : k' ≠ k) :
    (s.updateInflight k r).inFlight.get? k' = s.inFlight.get? k' := by
  unfold updateInflight
  split
  · exact s.inFlight.get?_set_of_ne h r
  · rfl

end ExecutorState

/-- `_TERMINAL_STATUSES`. -/
def terminalStatuses : List OrderStatus := [.filled, .cancelled, .rejected, .expired]

/-- The placeholder stored before the exchange call. -/
def placeholder (o : OrderRequest) : OrderResult where
  requestId := o.id
  exchangeOrderId := ""
  symbol := o.symbol
  status := .pending
  tradingMode := o.tradingMode

/-- `_make_duplicate_result`. -/
def makeDuplicateResult (original : OrderResult) : OrderResult where
  requestId := original.requestId
  exchangeOrderId := original.exchangeOrderId
  symbol := original.symbol
  status := .rejected
  tradingMode := original.tradingMode
  rawResponse :=
    { duplicate := true
      rejectionReason := some "Duplicate order submission blocked" }

/-- `_make_unknown_result`. -/
def makeUnknownResult (o : OrderRequest) (error : String) : OrderResult where
  requestId := o.id
  exchangeOrderId := ""
  symbol := o.symbol
  status := .rejected
  tradingMode := o.tradingMode
  rawResponse :=
    { unknown := true
      error := some error
      rejectionReason := some ("Execution error: " ++ error) }

/-- `_result_from_db_row`. -/
def resultFromDbRow (row : OrderRow) (o : OrderRequest) : OrderResult where
  requestId := o.id
  exchangeOrderId := row.exchangeOrderId.getD ""
  symbol := o.symbol
  status := row.status
  filledQuantity := row.filledQuantity
  averageFillPrice := row.averageFillPrice
  fees := row.fees
  tradingMode := o.tradingMode
  rawResponse :=
    { row.rawResponse with
      duplicate := true
      duplicateSource := some "db_idempotency_check"
      rejectionReason := some ("Duplicate order submission blocked (already persisted " ++
        "by a previous process instance)") }

/-- What a call answers when the look-up finds a row. -/
def recoveredResult (row : OrderRow) (o : OrderRequest) : OrderResult :=
  if row.status ∈ terminalStatuses then resultFromDbRow row o
  else makeUnknownResult o ("Order " ++ toString o.id ++
    " already persisted with non-terminal status '" ++ row.status.value ++
    "' by a previous process instance - not resubmitting blindly.")

/-- The row that `_persist_pending` inserts. -/
def pendingRow (o : OrderRequest) : OrderRow where
  exchangeOrderId := none
  side := o.side
  quantity := o.quantity
  status := .pending
  filledQuantity := 0
  averageFillPrice := none
  fees := 0
  rawResponse := {}

/-- `OrderRepository.update_status` on one row: values that are `None` or empty
leave their column alone. -/
def OrderRow.update (row : OrderRow) (r : OrderResult) : OrderRow :=
  { row with
    status := r.status
    filledQuantity := r.filledQuantity
    averageFillPrice := r.averageFillPrice.or row.averageFillPrice
    fees := r.fees
    exchangeOrderId :=
      if r.exchangeOrderId = "" then row.exchangeOrderId else some r.exchangeOrderId }

/-- `update_status` on the table; without a row it changes nothing. -/
def ExecutorState.updateStatus (s : ExecutorState) (k : UUID) (r : OrderResult) :
    ExecutorState :=
  match s.orders k with
  | some row => s.putRow k (row.update r)
  | none => s

namespace ExecutorState

variable (s : ExecutorState) (k k' : UUID) (r : OrderResult)

@[simp] theorem updateStatus_inFlight : (s.updateStatus k r).inFlight = s.inFlight := by
  unfold updateStatus
  split <;> rfl

@[simp] theorem updateStatus_submitted : (s.updateStatus k r).submitted = s.submitted := by
  unfold updateStatus
  split <;> rfl

/-- An update neither creates nor removes a row. -/
@[simp] theorem updateStatus_orders_eq_none_iff :
    (s.updateStatus k r).orders k' = none ↔ s.orders k' = none := by
  unfold updateStatus
  split
  · rename_i row h
    rw [putRow_orders]
    by_cases hk : k' = k
    · subst hk
      simp [h]
    · rw [if_neg hk]
  · rfl

end ExecutorState

/-- The control points of one `execute_safely` call. -/
inductive SafePc
  /-- Not called yet. -/
  | idle
  /-- `_lookup_persisted` awaits the database. -/
  | lookup
  /-- The database has answered `row`; the task has not resumed. -/
  | lookedUp (row : Option OrderRow)
  /-- `_persist_pending` awaits the database. -/
  | persistPending
  /-- The insertion has committed or failed; the task has not resumed. -/
  | pendingPersisted
  /-- `exchange_submit_fn` runs. -/
  | submitting
  /-- `_persist_final` awaits the database. -/
  | persistFinal (result : OrderResult) (raised : Bool)
  /-- The update has committed or failed; the task has not resumed. -/
  | finalPersisted (result : OrderResult) (raised : Bool)
  /-- Returned without having submitted. -/
  | blocked (result : OrderResult)
  /-- Returned after a submission. -/
  | finished (result : OrderResult)

/-- What wakes an `execute_safely` call. -/
inductive SafeEvent
  | call
  | lookupAnswers
  | lookupFails
  | createCommits
  | createFails
  | submitReturns (result : OrderResult)
  | submitRaises (error : String)
  | updateCommits
  | updateFails
  | resume

/-- `execute_safely` up to its first suspension point: the check of the map and,
without a repository, also the insertion into it. -/
def safeCall (repo : Bool) (o : OrderRequest) (s : ExecutorState) :
    ExecutorState × SafePc :=
  match s.inFlight.get? o.id with
  | some cached => (s, .blocked (makeDuplicateResult cached))
  | none =>
      if repo then (s, .lookup)
      else ((s.track o.id (placeholder o)).submit o.id, .submitting)

/-- The segments of `execute_safely` for the order `o`; `repo` says whether an
order repository is injected. Without one the persistence helpers return at
once. -/
def safeSegment (repo : Bool) (o : OrderRequest) : Segment ExecutorState SafePc SafeEvent
  | s, .idle, .call => some (safeCall repo o s)
  | s, .lookup, .lookupAnswers => some (s, .lookedUp (s.orders o.id))
  -- a failing look-up is treated like a missing row
  | s, .lookup, .lookupFails => some (s, .lookedUp none)
  | s, .lookedUp (some row), .resume => some (s, .blocked (recoveredResult row o))
  | s, .lookedUp none, .resume => some (s.track o.id (placeholder o), .persistPending)
  -- the primary key admits one row for each id
  | s, .persistPending, .createCommits =>
      if (s.orders o.id).isNone then some (s.putRow o.id (pendingRow o), .pendingPersisted)
      else none
  | s, .persistPending, .createFails => some (s, .pendingPersisted)
  | s, .pendingPersisted, .resume => some (s.submit o.id, .submitting)
  | s, .submitting, .submitReturns r =>
      some (s.track o.id r, if repo then .persistFinal r false else .finished r)
  | s, .submitting, .submitRaises e =>
      if repo then some (s, .persistFinal (makeUnknownResult o e) true)
      else some (s.release o.id, .finished (makeUnknownResult o e))
  | s, .persistFinal r raised, .updateCommits =>
      some (s.updateStatus o.id r, .finalPersisted r raised)
  | s, .persistFinal r raised, .updateFails => some (s, .finalPersisted r raised)
  | s, .finalPersisted r raised, .resume =>
      some (if raised then s.release o.id else s, .finished r)
  | _, _, _ => none

end Sgr
