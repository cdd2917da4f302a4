import Sgr.Collection.Dict
import Sgr.Core.Types
import Sgr.Strategy.SymbolValidation

/-!
# The symbol gate

`SymbolStrategyGate.refresh` of `sgr/strategy/symbol_gate.py` reads the best rows of all batches,
the highest scores first and no more than 5000, and keeps the last one it meets of each symbol.
The order of the rows is that of their scores, not of their batches: what counts is the row of a
symbol with the lowest score.
-/

open Collection

namespace Sgr

/-- `ORDER BY score DESC`: a row without a score comes first. -/
def ranksBefore (r r' : ValidationRow) : Prop :=
  match r.score, r'.score with
  | none, _ => True
  | some _, none => False
  | some x, some y => y ≤ x

instance : DecidableRel ranksBefore := fun r r' => by
  unfold ranksBefore
  split <;> infer_instance

/-- What `get_best_by_symbol` may answer: rows of the same score come in any order. -/
def IsBestAnswer (limit : ℕ) (rows answer : List ValidationRow) : Prop :=
  ∃ ordered : List ValidationRow, ordered.Perm (rows.filter ValidationRow.isBestForSymbol) ∧
    ordered.Pairwise ranksBefore ∧ answer = ordered.take limit

/-- `SymbolStrategyGate`. -/
structure SymbolStrategyGate where
  activeStrategyBySymbol : Dict String (Option String)
  lastRefreshedAt : Option Timestamp
  exchange : String
  timeframe : String

namespace SymbolStrategyGate

/-- `SymbolStrategyGate()`. -/
def init : SymbolStrategyGate := ⟨Dict.empty, none, "binance", "1h"⟩

/-- `is_allowed`. -/
def isAllowed (g : SymbolStrategyGate) (symbol strategy : String) : Bool :=
  match g.activeStrategyBySymbol.get? symbol with
  | none => true
  | some active => active == some strategy

/-- The rows of the gate's exchange and timeframe. -/
def concerns (g : SymbolStrategyGate) (r : ValidationRow) : Bool :=
  r.exchange == g.exchange && r.timeframe == g.timeframe

/-- The limit of the query. -/
def refreshLimit : ℕ := 5000

/-- `refresh` on the answer of the query; an error leaves the gate as it is. -/
def refresh (g : SymbolStrategyGate) (answer : Option (List ValidationRow)) (now : Timestamp) :
    SymbolStrategyGate :=
  match answer with
  | none => g
  | some rows =>
      { g with
        activeStrategyBySymbol := rows.foldl
          (fun d r =>
            if r.exchange ≠ g.exchange ∨ r.timeframe ≠ g.timeframe then d
            else d.set r.symbol (if r.status = .active then some r.strategy else none)) Dict.empty
        lastRefreshedAt := some now }

end SymbolStrategyGate

/-- What a best row says about its symbol: the strategy that may trade it, if one may. -/
def ValidationRow.verdict (r : ValidationRow) : Option String :=
  if r.status = .active then some r.strategy else none

/-- The best row of a symbol that was written last: that of the batch that has completed last. -/
def newestBest (g : SymbolStrategyGate) (rows : List ValidationRow) (symbol : String) :
    Option ValidationRow :=
  rows.reverse.find? fun r => r.isBestForSymbol && g.concerns r && r.symbol == symbol

/-- A validated symbol has the verdict of its newest best row, and a symbol without one has
none. -/
def DecidedByNewest (g : SymbolStrategyGate) (rows : List ValidationRow)
    (entries : Dict String (Option String)) : Prop :=
  ∀ symbol, entries.get? symbol = (newestBest g rows symbol).map ValidationRow.verdict

/-- In the answer there is a row of the symbol with the verdict of its newest best row, and no row
of the symbol with another verdict comes after it. -/
def Prevails (g : SymbolStrategyGate) (answer : List ValidationRow) (newest : ValidationRow) :
    Prop :=
  ∃ before r after, answer = before ++ r :: after ∧
    (g.concerns r = true ∧ r.symbol = newest.symbol) ∧ r.verdict = newest.verdict ∧
    ∀ r' ∈ after, g.concerns r' = true ∧ r'.symbol = newest.symbol → r'.verdict = newest.verdict

section Newest

variable {g : SymbolStrategyGate} {rows : List ValidationRow} {symbol : String}
  {best : ValidationRow}

theorem newestBest_eq_getLast? (g : SymbolStrategyGate) (rows : List ValidationRow)
    (symbol : String) : newestBest g rows symbol =
      (rows.filter fun r => r.isBestForSymbol && g.concerns r && r.symbol == symbol).getLast? := by
  rw [newestBest, ← List.head?_filter, List.filter_reverse, List.head?_reverse]

/-- The best row of a validation is the newest one of its symbol. -/
theorem newestBest_validateSymbol {b : ValidationBatch} {result : SymbolResult}
    (hbest : bestRow b symbol result = some best) (hexchange : b.exchange = g.exchange)
    (htimeframe : b.timeframe = g.timeframe) :
    newestBest g (validateSymbol b symbol rows result) symbol = some best := by
  have hfound : (best.isBestForSymbol && g.concerns best && best.symbol == symbol) = true := by
    have hkeys := isBestOf_of_bestRow hbest
    simp [SymbolStrategyGate.concerns, hkeys.symbol, hkeys.exchange, hkeys.timeframe, hkeys.isBest,
      hexchange, htimeframe]
  obtain ⟨rows', hrows⟩ := validateSymbol_of_bestRow hbest rows
  rw [newestBest, hrows, List.reverse_append, List.reverse_singleton, List.singleton_append]
  exact List.find?_cons_of_pos hfound

/-- The other symbols of a batch do not change the newest best row. -/
theorem newestBest_foldl_of_notMem {b : ValidationBatch} {processed : List String}
    {results : List (String × SymbolResult)} (h : symbol ∉ results.map Prod.fst) :
    newestBest g (results.foldl
      (fun rows s => if s.1 ∈ processed then rows else validateSymbol b s.1 rows s.2) rows)
        symbol = newestBest g rows symbol := by
  induction results generalizing rows with
  | nil => rfl
  | cons s results ih =>
      rw [List.map_cons, List.mem_cons, not_or] at h
      rw [List.foldl_cons, ih h.2]
      split
      next => rfl
      next =>
        rw [newestBest_eq_getLast?, newestBest_eq_getLast?, filter_validateSymbol]
        intro r hr
        simp [hr, Ne.symm h.1]

/-- The newest best row of a symbol is that of the batch that completed last among those which have
validated it. -/
theorem newestBest_runBatch {run : BatchRun} {result : SymbolResult}
    (hnodup : (run.results.map Prod.fst).Nodup) (hmem : (symbol, result) ∈ run.results)
    (hnew : symbol ∉ processedSymbols run.batch rows)
    (hbest : bestRow run.batch symbol result = some best)
    (hexchange : run.batch.exchange = g.exchange) (htimeframe : run.batch.timeframe = g.timeframe) :
    newestBest g (runBatch rows run) symbol = some best := by
  obtain ⟨before, after, hsplit⟩ := List.append_of_mem hmem
  rw [hsplit, List.map_append, List.map_cons] at hnodup
  have hafter : symbol ∉ after.map Prod.fst := by
    have hcons := (List.nodup_append.1 hnodup).2.1
    exact (List.nodup_cons.1 hcons).1
  have hskip : symbol ∉ (if run.resume then processedSymbols run.batch rows else []) := by
    split
    · exact hnew
    · exact List.not_mem_nil
  rw [runBatch, hsplit, List.foldl_append, List.foldl_cons, newestBest_foldl_of_notMem hafter,
    if_neg hskip]
  exact newestBest_validateSymbol hbest hexchange htimeframe

end Newest

section Refresh

variable (g : SymbolStrategyGate) {rows answer : List ValidationRow}

/-- The entry of a symbol is that of its last row in the answer. -/
theorem get?_refresh (answer : List ValidationRow) (now : Timestamp) (symbol : String) :
    (g.refresh (some answer) now).activeStrategyBySymbol.get? symbol =
      (answer.reverse.find? fun r => g.concerns r && r.symbol == symbol).map
        ValidationRow.verdict := by
  have hfold : (g.refresh (some answer) now).activeStrategyBySymbol =
      (answer.filter g.concerns).foldl (fun d r => d.set r.symbol r.verdict) Dict.empty := by
    rw [List.foldl_filter]
    refine congrArg (fun f => answer.foldl f Dict.empty) ?_
    funext d r
    by_cases hr : g.concerns r = true
    · have hkeys := hr
      simp only [SymbolStrategyGate.concerns, Bool.and_eq_true, beq_iff_eq] at hkeys
      rw [if_neg (by tauto), if_pos hr]
      rfl
    · have hkeys := hr
      simp only [SymbolStrategyGate.concerns, Bool.and_eq_true, beq_iff_eq] at hkeys
      rw [if_pos (by tauto), if_neg hr]
  have hempty : (Dict.empty : Dict String (Option String)).get? symbol = none := rfl
  rw [hfold, Dict.get?_foldl_set_map, ← List.filter_reverse, List.find?_filter, hempty,
    Option.or_none]
  refine congrArg (fun p => (answer.reverse.find? p).map _) ?_
  funext r
  simp [Bool.beq_eq_decide_eq]

/-- The answer holds only best rows. -/
theorem IsBestAnswer.mem {limit : ℕ} (h : IsBestAnswer limit rows answer) {r : ValidationRow}
    (hr : r ∈ answer) : r ∈ rows ∧ r.isBestForSymbol = true := by
  obtain ⟨ordered, hperm, -, rfl⟩ := h
  exact List.mem_filter.1 (hperm.mem_iff.1 (List.mem_of_mem_take hr))

/-- A symbol without a best row does not come up. -/
theorem find?_eq_none_of_newestBest {limit : ℕ} (h : IsBestAnswer limit rows answer)
    {symbol : String} (hnone : newestBest g rows symbol = none) :
    (answer.reverse.find? fun r => g.concerns r && r.symbol == symbol) = none := by
  rw [List.find?_eq_none]
  intro r hr hsymbol
  obtain ⟨hrow, hbest⟩ := h.mem (List.mem_reverse.1 hr)
  refine List.find?_eq_none.1 hnone r (List.mem_reverse.2 hrow) ?_
  rw [hbest, Bool.true_and]
  exact hsymbol

variable {g} in
theorem symbol_of_newestBest {symbol : String} {newest : ValidationRow}
    (h : newestBest g rows symbol = some newest) : newest.symbol = symbol := by
  have hfound := List.find?_some h
  rw [Bool.and_eq_true, beq_iff_eq] at hfound
  exact hfound.2

/-- After a refresh every symbol is decided by its newest best row exactly if the verdict of this
row prevails in the order of the scores within the limit. -/
theorem decidedByNewest_refresh_iff {history : List BatchRun} {now : Timestamp}
    (h : IsBestAnswer SymbolStrategyGate.refreshLimit (tableOf history) answer) :
    DecidedByNewest g (tableOf history) (g.refresh (some answer) now).activeStrategyBySymbol ↔
      ∀ symbol newest, newestBest g (tableOf history) symbol = some newest →
        Prevails g answer newest := by
  refine forall_congr' fun symbol => ?_
  rw [get?_refresh]
  cases hnewest : newestBest g (tableOf history) symbol with
  | none => simp [find?_eq_none_of_newestBest g h hnewest]
  | some newest =>
      obtain rfl := symbol_of_newestBest hnewest
      rw [Option.map_some, Dict.map_find?_reverse_eq_some_iff]
      simp only [Bool.and_eq_true, beq_iff_eq, Option.some.injEq, forall_eq']
      exact Iff.rfl

end Refresh

/-- Two batches of one symbol: a strategy passes, then the data are rejected. -/
def rejectedLater : List BatchRun :=
  [{ batch := ⟨"batch_20260901", "binance", "1h"⟩
     results := [("BTC/USDT", .scored [⟨"trend_v1", 4 / 5, true⟩])] },
   { batch := ⟨"batch_20260902", "binance", "1h"⟩
     results := [("BTC/USDT", .rejected .insufficientData [])] }]

/-- A symbol that is validated once. -/
def validatedOnce : List BatchRun := rejectedLater.take 1

theorem decidedByNewest_refresh_validatedOnce :
    DecidedByNewest .init (tableOf validatedOnce)
        (SymbolStrategyGate.init.refresh
          (some ((tableOf validatedOnce).filter ValidationRow.isBestForSymbol)) 0
        ).activeStrategyBySymbol ↔
      ∀ symbol newest, newestBest .init (tableOf validatedOnce) symbol = some newest →
        Prevails .init ((tableOf validatedOnce).filter ValidationRow.isBestForSymbol) newest :=
  decidedByNewest_refresh_iff .init
    ⟨_, List.Perm.refl _, by decide +kernel, by decide +kernel⟩

/-- The row without a score comes first, so the older row keeps the symbol tradable. -/
theorem not_forall_decidedByNewest :
    ¬ ∀ (history : List BatchRun) (answer : List ValidationRow) (now : Timestamp),
      IsBestAnswer SymbolStrategyGate.refreshLimit (tableOf history) answer →
        DecidedByNewest .init (tableOf history)
          (SymbolStrategyGate.init.refresh (some answer) now).activeStrategyBySymbol := by
  intro h
  have hdecided := h rejectedLater
    ((tableOf rejectedLater).filter ValidationRow.isBestForSymbol).reverse 0
    ⟨_, List.reverse_perm _, by decide +kernel, by decide +kernel⟩ "BTC/USDT"
  exact absurd hdecided (by decide +kernel)

end Sgr
