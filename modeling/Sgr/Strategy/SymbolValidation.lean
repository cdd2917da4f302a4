import Sgr.Arithmetic.Decimal

/-!
# Symbol validation batches

The rows that `SymbolStrategyValidationRunner` of `sgr/strategy/symbol_validation_runner.py`
writes through the `StrategySymbolValidationRepository` of `sgr/core/repositories.py`: one for each
candidate strategy of a symbol, then the one that is marked as the best of the symbol. The table
is a list of rows in the order in which they were last written.
-/

open Arithmetic

namespace Sgr

/-- `SymbolValidationStatus`. -/
inductive SymbolValidationStatus
  | insufficientData
  | invalidData
  | noValidStrategy
  | validatedButNotActive
  | active
  | technicalFailure
  deriving DecidableEq, Repr

/-- The columns of `StrategySymbolValidationModel` that the gate and its query read. -/
structure ValidationRow where
  symbol : String
  exchange : String
  timeframe : String
  strategy : String
  batchId : String
  status : SymbolValidationStatus
  isBestForSymbol : Bool := false
  score : Option ℚ := none
  deriving DecidableEq, Repr

/-- The columns of `uq_strategy_symbol_validation`. -/
def ValidationRow.key (r : ValidationRow) : String × String × String × String × String :=
  (r.symbol, r.exchange, r.timeframe, r.strategy, r.batchId)

/-- `upsert`: a row with the same key is replaced. -/
def upsertRow (rows : List ValidationRow) (r : ValidationRow) : List ValidationRow :=
  (rows.filter fun r' => r'.key ≠ r.key) ++ [r]

/-- What identifies the rows of one run. -/
structure ValidationBatch where
  id : String
  exchange : String := "binance"
  timeframe : String := "1h"
  deriving DecidableEq, Repr

/-- `clear_best_flag`. -/
def clearBestFlag (b : ValidationBatch) (symbol : String) (rows : List ValidationRow) :
    List ValidationRow :=
  rows.map fun r =>
    if r.symbol = symbol ∧ r.exchange = b.exchange ∧ r.timeframe = b.timeframe ∧ r.batchId = b.id
    then { r with isBestForSymbol := false } else r

/-- `get_processed_symbols`. -/
def processedSymbols (b : ValidationBatch) (rows : List ValidationRow) : List String :=
  (rows.filter fun r => r.batchId = b.id ∧ r.isBestForSymbol = true).map ValidationRow.symbol

/-- The validation of a candidate strategy. -/
structure ScoredStrategy where
  strategy : String
  score : ℚ
  passesGates : Bool
  deriving DecidableEq, Repr

/-- What `_validate_symbol` finds out. -/
inductive SymbolResult
  /-- The data or the regimes rule every strategy out, or the validation has failed after some
  candidates. -/
  | rejected (status : SymbolValidationStatus) (tried : List ScoredStrategy)
  | scored (results : List ScoredStrategy)

/-- `NO_STRATEGY_SENTINEL`. -/
def noStrategySentinel : String := "__none__"

/-- The loop over the candidates: the first one of the highest score above `-1`. -/
def selectBest (results : List ScoredStrategy) : Option ScoredStrategy :=
  results.foldl
    (fun best r => if (best.map ScoredStrategy.score).getD (-1) < r.score then some r else best)
    none

section Rows

variable (b : ValidationBatch) (symbol : String)

/-- The column of a score has four places. -/
def storedScore (score : ℚ) : ℚ := roundedHalfUp 4 score

/-- The row of a candidate. -/
def candidateRow (r : ScoredStrategy) : ValidationRow where
  symbol := symbol
  exchange := b.exchange
  timeframe := b.timeframe
  strategy := r.strategy
  batchId := b.id
  status := if r.passesGates then .validatedButNotActive else .noValidStrategy
  score := some (storedScore r.score)

/-- The row that marks the best of a symbol. -/
def bestRow : SymbolResult → Option ValidationRow
  | .rejected status _ =>
      some
        { symbol := symbol
          exchange := b.exchange
          timeframe := b.timeframe
          strategy := noStrategySentinel
          batchId := b.id
          status := status
          isBestForSymbol := true }
  | .scored results =>
      (selectBest results).map fun best =>
        { candidateRow b symbol best with
          status := if best.passesGates then .active else .noValidStrategy
          isBestForSymbol := true }

/-- The candidates that are written before the end. -/
def SymbolResult.candidates : SymbolResult → List ScoredStrategy
  | .rejected _ tried => tried
  | .scored results => results

/-- The writes of `_validate_symbol`. Only the end of the loop over the candidates clears the best
flag of the batch. -/
def validateSymbol (rows : List ValidationRow) (result : SymbolResult) : List ValidationRow :=
  let rows := result.candidates.foldl (fun rows r => upsertRow rows (candidateRow b symbol r)) rows
  match bestRow b symbol result, result with
  | some best, .scored _ => upsertRow (clearBestFlag b symbol rows) best
  | some best, .rejected _ _ => upsertRow rows best
  | none, _ => rows

end Rows

/-- One `run_batch`: its symbols with what is found out about them. -/
structure BatchRun where
  batch : ValidationBatch
  resume : Bool := true
  results : List (String × SymbolResult)

/-- The writes of `run_batch`. -/
def runBatch (rows : List ValidationRow) (run : BatchRun) : List ValidationRow :=
  let processed := if run.resume then processedSymbols run.batch rows else []
  run.results.foldl
    (fun rows s => if s.1 ∈ processed then rows else validateSymbol run.batch s.1 rows s.2) rows

/-- The table after a history of batches, one after the other. -/
def tableOf (history : List BatchRun) : List ValidationRow := history.foldl runBatch []

/-- The best row of a result is the last one that is written. -/
theorem validateSymbol_of_bestRow {b : ValidationBatch} {symbol : String} {result : SymbolResult}
    {best : ValidationRow} (h : bestRow b symbol result = some best) (rows : List ValidationRow) :
    ∃ rows', validateSymbol b symbol rows result = rows' ++ [best] := by
  unfold validateSymbol
  rw [h]
  cases result with
  | rejected status tried => exact ⟨_, rfl⟩
  | scored results => exact ⟨_, rfl⟩

/-- The best row of a symbol carries the keys of its batch. -/
structure IsBestOf (b : ValidationBatch) (symbol : String) (r : ValidationRow) : Prop where
  symbol : r.symbol = symbol
  exchange : r.exchange = b.exchange
  timeframe : r.timeframe = b.timeframe
  isBest : r.isBestForSymbol = true

theorem isBestOf_of_bestRow {b : ValidationBatch} {symbol : String} {result : SymbolResult}
    {best : ValidationRow} (h : bestRow b symbol result = some best) : IsBestOf b symbol best := by
  cases result with
  | rejected status tried =>
      obtain rfl := Option.some.inj h
      exact ⟨rfl, rfl, rfl, rfl⟩
  | scored results =>
      obtain ⟨r, -, rfl⟩ := Option.map_eq_some_iff.1 h
      exact ⟨rfl, rfl, rfl, rfl⟩

/-! ### The writes about one symbol leave the rows of the others alone -/

section Others

variable {p : ValidationRow → Bool} {b : ValidationBatch} {symbol : String}

theorem filter_upsertRow (hp : ∀ r, r.symbol = symbol → p r = false) (rows : List ValidationRow)
    {r : ValidationRow} (hr : r.symbol = symbol) :
    (upsertRow rows r).filter p = rows.filter p := by
  have hkeep : ∀ r' ∈ rows, (p r' && decide (r'.key ≠ r.key)) = p r' := by
    intro r' _
    by_cases hkey : r'.key = r.key
    · have hsymbol : r'.symbol = symbol := (congrArg Prod.fst hkey).trans hr
      rw [hp r' hsymbol, Bool.false_and]
    · rw [decide_eq_true hkey, Bool.and_true]
  rw [upsertRow, List.filter_append, List.filter_filter, List.filter_congr hkeep]
  simp [hp r hr]

theorem filter_clearBestFlag (hp : ∀ r, r.symbol = symbol → p r = false)
    (rows : List ValidationRow) : (clearBestFlag b symbol rows).filter p = rows.filter p := by
  induction rows with
  | nil => rfl
  | cons r rows ih =>
      rw [clearBestFlag, List.map_cons]
      split
      next hr =>
        have hcleared : p { r with isBestForSymbol := false } = false := hp _ hr.1
        rw [List.filter_cons_of_neg (by simp [hcleared]),
          List.filter_cons_of_neg (by simp [hp r hr.1]), ← ih, clearBestFlag]
      next => rw [List.filter_cons, List.filter_cons, ← ih, clearBestFlag]

theorem filter_candidates (hp : ∀ r, r.symbol = symbol → p r = false)
    (tried : List ScoredStrategy) (rows : List ValidationRow) :
    (tried.foldl (fun rows r => upsertRow rows (candidateRow b symbol r)) rows).filter p =
      rows.filter p := by
  induction tried generalizing rows with
  | nil => rfl
  | cons r tried ih => exact (ih _).trans (filter_upsertRow hp rows rfl)

theorem filter_validateSymbol (hp : ∀ r, r.symbol = symbol → p r = false)
    (rows : List ValidationRow) (result : SymbolResult) :
    (validateSymbol b symbol rows result).filter p = rows.filter p := by
  unfold validateSymbol
  dsimp only
  cases hbest : bestRow b symbol result with
  | none => exact filter_candidates hp _ rows
  | some best =>
      have hsymbol := (isBestOf_of_bestRow hbest).symbol
      cases result with
      | rejected status tried =>
          exact (filter_upsertRow hp _ hsymbol).trans (filter_candidates hp _ rows)
      | scored results =>
          exact (filter_upsertRow hp _ hsymbol).trans
            ((filter_clearBestFlag hp _).trans (filter_candidates hp _ rows))

end Others

end Sgr
