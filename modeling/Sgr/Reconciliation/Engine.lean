import Mathlib.Algebra.Order.Field.Rat
import Mathlib.Data.List.Dedup
import Mathlib.Data.List.Sort
import Sgr.Collection.Dict
import Sgr.Collection.Pairing
import Sgr.Core.SymbolText

/-!
# Reconciliation

`ReconciliationEngine` of `sgr/reconciliation/engine.py` compares the positions of the portfolio
with those of an exchange. Both sides go into a dictionary keyed by `str(symbol)` first, so of
several positions with one rendered symbol only the last is compared, and the positions that the
portfolio holds on other exchanges are compared as well. The result is what it should be exactly
for the symbols that need neither.
-/

open Collection

namespace Sgr

/-- `DiscrepancyType`. -/
inductive DiscrepancyType
  | matched
  | quantityMismatch
  | missingLocally
  | missingOnExchange
  deriving DecidableEq, Repr

/-- `PositionDiscrepancy`. -/
structure PositionDiscrepancy where
  symbolKey : String
  discrepancyType : DiscrepancyType
  localQuantity : Option ℚ := none
  exchangeQuantity : Option ℚ := none
  localSide : Option PositionSide := none
  exchangeSide : Option PositionSide := none
  deriving DecidableEq, Repr

/-- `ReconciliationStatus`. -/
inductive ReconciliationStatus
  | clean
  | discrepanciesFound
  | skippedNotLive
  | failed
  deriving DecidableEq, Repr

/-- `ReconciliationResult`. -/
structure ReconciliationResult where
  startedAt : Timestamp
  completedAt : Timestamp
  status : ReconciliationStatus
  tradingMode : TradingMode
  exchange : ExchangeID
  checkedSymbols : ℕ := 0
  discrepancies : List PositionDiscrepancy := []
  error : Option String := none
  deriving DecidableEq, Repr

/-- `_QUANTITY_TOLERANCE`. -/
def quantityTolerance : ℚ := 1 / 10 ^ 8

/-- `_compare`. -/
def comparePositions (key : String) (own remote : Option Position) : Option PositionDiscrepancy :=
  match own, remote with
  | some l, none =>
      some
        { symbolKey := key
          discrepancyType := .missingOnExchange
          localQuantity := some l.quantity
          localSide := some l.side }
  | none, some r =>
      some
        { symbolKey := key
          discrepancyType := .missingLocally
          exchangeQuantity := some r.quantity
          exchangeSide := some r.side }
  | none, none => none
  | some l, some r =>
      if quantityTolerance < |l.quantity - r.quantity| ∨ l.side ≠ r.side then
        some
          { symbolKey := key
            discrepancyType := .quantityMismatch
            localQuantity := some l.quantity
            exchangeQuantity := some r.quantity
            localSide := some l.side
            exchangeSide := some r.side }
      else none

/-- `{str(p.symbol): p for p in positions}`. -/
def bySymbol (positions : List Position) : Dict String Position :=
  positions.foldl (fun d p => d.set p.symbol.str p) Dict.empty

/-- The keys of both dictionaries, sorted. -/
def allSymbolKeys (own remote : Dict String Position) : List String :=
  ((own.entries ++ remote.entries).map Prod.fst).dedup.mergeSort fun k k' => decide (k ≤ k')

/-- `ReconciliationEngine`. -/
structure ReconciliationEngine where
  tradingMode : TradingMode
  exchangeId : ExchangeID

namespace ReconciliationEngine

variable (e : ReconciliationEngine) (startedAt completedAt : Timestamp)

/-- `_reconcile_internal`. -/
def reconcileInternal (positions exchangePositions : List Position) : ReconciliationResult :=
  let own := bySymbol positions
  let remote := bySymbol exchangePositions
  let keys := allSymbolKeys own remote
  let discrepancies := keys.filterMap fun k => comparePositions k (own.get? k) (remote.get? k)
  { startedAt := startedAt
    completedAt := completedAt
    status := if discrepancies = [] then .clean else .discrepanciesFound
    tradingMode := e.tradingMode
    exchange := e.exchangeId
    checkedSymbols := keys.length
    discrepancies := discrepancies }

/-- `reconcile` on the positions of the portfolio and the answer of the adapter. -/
def reconcile (positions : List Position) (answer : Except String (List Position)) :
    ReconciliationResult :=
  if e.tradingMode ≠ .live then
    { startedAt := startedAt
      completedAt := completedAt
      status := .skippedNotLive
      tradingMode := e.tradingMode
      exchange := e.exchangeId }
  else
    match answer with
    | .ok exchangePositions => e.reconcileInternal startedAt completedAt positions exchangePositions
    | .error error =>
        { startedAt := startedAt
          completedAt := completedAt
          status := .failed
          tradingMode := e.tradingMode
          exchange := e.exchangeId
          error := some ("Reconciliation error: " ++ error) }

end ReconciliationEngine

/-! ### What the result should be -/

/-- Equal side, and quantities within the tolerance. -/
def SameAmount (l r : Position) : Prop :=
  l.side = r.side ∧ |l.quantity - r.quantity| ≤ quantityTolerance

/-- The same position as the portfolio and as the exchange sees it. -/
def SameHolding (l r : Position) : Prop := l.symbol = r.symbol ∧ SameAmount l r

/-- The positions of the portfolio on an exchange and those that it reports can be matched one to
one. -/
def PositionsMatch (exchange : ExchangeID) (positions exchangePositions : List Position) : Prop :=
  Paired SameHolding (positions.filter fun p => p.symbol.exchange = exchange) exchangePositions

/-- The symbols are the same on both sides, all of this exchange and all rendered differently; or
neither the rendered symbols nor the symbols of this exchange agree, so that nothing can match. -/
def Reconcilable (exchange : ExchangeID) (symbols exchangeSymbols : List Symbol) : Prop :=
  (symbols.Perm exchangeSymbols ∧ (∀ s ∈ symbols, s.exchange = exchange) ∧
      (symbols.map Symbol.str).Nodup) ∨
    ((¬ ∀ k, k ∈ symbols.map Symbol.str ↔ k ∈ exchangeSymbols.map Symbol.str) ∧
      ¬ (symbols.filter fun s => s.exchange = exchange).Perm exchangeSymbols)

/-! ### What the engine compares -/

theorem get?_bySymbol (positions : List Position) (k : String) :
    (bySymbol positions).get? k = positions.reverse.find? fun p => p.symbol.str = k :=
  (Dict.get?_foldl_set_key (fun p : Position => p.symbol.str) positions Dict.empty k).trans
    Option.or_none

theorem comparePositions_eq_none_iff {key : String} {own remote : Option Position} :
    comparePositions key own remote = none ↔
      (own = none ∧ remote = none) ∨
        ∃ l r, own = some l ∧ remote = some r ∧ SameAmount l r := by
  unfold comparePositions SameAmount
  split
  next l => simp
  next r => simp
  next => simp
  next l r =>
    split
    next h =>
      simp only [reduceCtorEq, false_and, false_or, false_iff, not_exists]
      rintro l' r' ⟨hl, hr, hside, hquantity⟩
      cases hl
      cases hr
      exact h.elim (fun hlt => absurd hquantity (not_le.2 hlt)) fun hne => hne hside
    next h =>
      rw [not_or, not_lt, not_not] at h
      simp only [true_iff]
      exact .inr ⟨l, r, rfl, rfl, h.2, h.1⟩

theorem get?_bySymbol_eq_none_iff {positions : List Position} {k : String} :
    (bySymbol positions).get? k = none ↔ k ∉ positions.map fun p => p.symbol.str := by
  rw [get?_bySymbol, List.find?_eq_none]
  simp

theorem mem_of_get?_bySymbol {positions : List Position} {k : String} {p : Position}
    (h : (bySymbol positions).get? k = some p) : p ∈ positions ∧ p.symbol.str = k := by
  rw [get?_bySymbol] at h
  exact ⟨List.mem_reverse.1 (List.mem_of_find?_eq_some h), by simpa using List.find?_some h⟩

/-- A position whose key occurs once is found. -/
theorem get?_bySymbol_of_nodup {positions : List Position} {p : Position} (hp : p ∈ positions)
    (hnodup : (positions.map fun p => p.symbol.str).Nodup) :
    (bySymbol positions).get? p.symbol.str = some p := by
  cases hfind : (bySymbol positions).get? p.symbol.str with
  | none => exact absurd (List.mem_map_of_mem hp) (get?_bySymbol_eq_none_iff.1 hfind)
  | some p' =>
      obtain ⟨hp', hkey⟩ := mem_of_get?_bySymbol hfind
      rw [List.inj_on_of_nodup_map hnodup hp' hp hkey]

theorem map_str (positions : List Position) : (positions.map fun p => p.symbol.str) =
    (positions.map Position.symbol).map Symbol.str := by
  rw [List.map_map]
  rfl

/-- A position whose key comes again is overwritten. -/
theorem get?_bySymbol_overwritten {before after : List Position} {p : Position}
    (h : p.symbol.str ∈ after.map fun p => p.symbol.str) (k : String) :
    (bySymbol (before ++ p :: after)).get? k = (bySymbol (before ++ after)).get? k := by
  rw [get?_bySymbol, get?_bySymbol]
  simp only [List.reverse_append, List.reverse_cons, List.find?_append]
  cases hafter : after.reverse.find? fun p => p.symbol.str = k with
  | some q => rw [Option.some_or, Option.some_or]
  | none =>
      have hk : p.symbol.str ≠ k := by
        rintro rfl
        obtain ⟨q, hq, hkey⟩ := List.mem_map.1 h
        exact List.find?_eq_none.1 hafter q (List.mem_reverse.2 hq) (decide_eq_true hkey)
      have hskip : ([p].find? fun p => p.symbol.str = k) = none :=
        List.find?_cons_of_neg fun hp => hk (of_decide_eq_true hp)
      rw [hskip, Option.or_none]

theorem get?_eq_none_of_notMem {d : Dict String Position} {k : String}
    (h : k ∉ d.entries.map Prod.fst) : d.get? k = none := Dict.find_eq_none_iff.2 h

/-- The result is clean when the comparison finds nothing under any key. -/
theorem status_reconcile_eq_clean_iff (exchange : ExchangeID) (startedAt completedAt : Timestamp)
    (positions exchangePositions : List Position) :
    ((ReconciliationEngine.mk .live exchange).reconcile startedAt completedAt positions
        (.ok exchangePositions)).status = .clean ↔
      ∀ k, comparePositions k ((bySymbol positions).get? k)
        ((bySymbol exchangePositions).get? k) = none := by
  have hstatus : ((ReconciliationEngine.mk .live exchange).reconcile startedAt completedAt positions
      (.ok exchangePositions)).status =
      if ((allSymbolKeys (bySymbol positions) (bySymbol exchangePositions)).filterMap fun k =>
        comparePositions k ((bySymbol positions).get? k)
          ((bySymbol exchangePositions).get? k)) = [] then .clean else .discrepanciesFound := rfl
  rw [hstatus]
  constructor
  · intro h k
    split at h
    next hnil =>
      by_cases hk : k ∈ allSymbolKeys (bySymbol positions) (bySymbol exchangePositions)
      · exact List.filterMap_eq_nil_iff.1 hnil k hk
      · rw [allSymbolKeys, List.mem_mergeSort, List.mem_dedup, List.map_append, List.mem_append,
          not_or] at hk
        rw [get?_eq_none_of_notMem hk.1, get?_eq_none_of_notMem hk.2]
        rfl
    next => cases h
  · intro h
    exact if_pos (List.filterMap_eq_nil_iff.2 fun k _ => h k)

section Clean

variable {exchange : ExchangeID} {startedAt completedAt : Timestamp}
  {positions exchangePositions : List Position}

/-- The engine finds the result clean. -/
def FoundClean (positions exchangePositions : List Position) : Prop :=
  ∀ k, comparePositions k ((bySymbol positions).get? k)
    ((bySymbol exchangePositions).get? k) = none

/-- A clean result has the same keys on both sides. -/
theorem FoundClean.mem_iff (h : FoundClean positions exchangePositions) (k : String) :
    k ∈ (positions.map fun p => p.symbol.str) ↔
      k ∈ exchangePositions.map fun p => p.symbol.str := by
  rw [← not_iff_not, ← get?_bySymbol_eq_none_iff, ← get?_bySymbol_eq_none_iff]
  rcases comparePositions_eq_none_iff.1 (h k) with ⟨hl, hr⟩ | ⟨l, r, hl, hr, -⟩
  · simp [hl, hr]
  · simp [hl, hr]

/-- Where all positions that are compared are alike, the keys decide. -/
theorem foundClean_of_alike
    (hkeys : ∀ k, k ∈ (positions.map fun p => p.symbol.str) ↔
      k ∈ exchangePositions.map fun p => p.symbol.str)
    (halike : ∀ k l r, (bySymbol positions).get? k = some l →
      (bySymbol exchangePositions).get? k = some r → SameAmount l r) :
    FoundClean positions exchangePositions := by
  intro k
  have hnone := not_iff_not.2 (hkeys k)
  rw [← get?_bySymbol_eq_none_iff, ← get?_bySymbol_eq_none_iff] at hnone
  rw [comparePositions_eq_none_iff]
  cases hl : (bySymbol positions).get? k with
  | none => exact .inl ⟨rfl, hnone.1 hl⟩
  | some l =>
      cases hr : (bySymbol exchangePositions).get? k with
      | none => exact absurd (hnone.2 hr) (by simp [hl])
      | some r => exact .inr ⟨l, r, rfl, rfl, halike k l r hl hr⟩

end Clean

/-! ### Where the comparison is right -/

section Right

variable {exchange : ExchangeID} {positions exchangePositions : List Position}

theorem symbol_eq_of_sameHolding (l r : Position) (h : SameHolding l r) : l.symbol = r.symbol := h.1

theorem map_filter_symbol (exchange : ExchangeID) (positions : List Position) :
    (positions.filter fun p => p.symbol.exchange = exchange).map Position.symbol =
      (positions.map Position.symbol).filter fun s => s.exchange = exchange := by
  rw [List.filter_map]
  rfl

/-- Matched positions have the same symbols. -/
theorem PositionsMatch.perm (h : PositionsMatch exchange positions exchangePositions) :
    ((positions.map Position.symbol).filter fun s => s.exchange = exchange).Perm
      (exchangePositions.map Position.symbol) := by
  rw [← map_filter_symbol]
  exact Paired.perm_map symbol_eq_of_sameHolding h

/-- With the same symbols on both sides, all of the exchange and each rendered differently, the
engine compares the right positions. -/
theorem foundClean_iff_positionsMatch
    (hperm : (positions.map Position.symbol).Perm (exchangePositions.map Position.symbol))
    (hown : ∀ p ∈ positions, p.symbol.exchange = exchange)
    (hnodup : (positions.map fun p => p.symbol.str).Nodup) :
    FoundClean positions exchangePositions ↔
      PositionsMatch exchange positions exchangePositions := by
  have hall : positions.filter (fun p => p.symbol.exchange = exchange) = positions :=
    List.filter_eq_self.2 fun p hp => decide_eq_true (hown p hp)
  have hkeys : (positions.map fun p => p.symbol.str).Perm
      (exchangePositions.map fun p => p.symbol.str) := by
    rw [map_str, map_str]
    exact hperm.map Symbol.str
  have hnodup' := hkeys.nodup_iff.1 hnodup
  have hsymbols : (positions.map Position.symbol).Nodup := by
    rw [map_str] at hnodup
    exact List.Nodup.of_map Symbol.str hnodup
  rw [PositionsMatch, hall, paired_iff symbol_eq_of_sameHolding hsymbols]
  constructor
  · intro h
    refine ⟨hperm, fun l hl r hr hsymbol => ⟨hsymbol, ?_⟩⟩
    have hcompare := h l.symbol.str
    have hfoundr := get?_bySymbol_of_nodup hr hnodup'
    rw [← hsymbol] at hfoundr
    rw [get?_bySymbol_of_nodup hl hnodup, hfoundr, comparePositions_eq_none_iff] at hcompare
    obtain ⟨hnone, -⟩ | ⟨l', r', hl', hr', hsame⟩ := hcompare
    · cases hnone
    · cases hl'
      cases hr'
      exact hsame
  · rintro ⟨-, hrel⟩
    refine foundClean_of_alike (fun k => hkeys.mem_iff) fun k l r hl hr => ?_
    obtain ⟨hl, hlk⟩ := mem_of_get?_bySymbol hl
    obtain ⟨hr, hrk⟩ := mem_of_get?_bySymbol hr
    -- the position of the portfolio with the symbol of `r` has the key of `l`
    obtain ⟨l', hl', hsymbol⟩ := List.mem_map.1 (hperm.mem_iff.2 (List.mem_map_of_mem hr))
    have hkey : l'.symbol.str = l.symbol.str := by rw [hsymbol, hrk, hlk]
    obtain rfl := List.inj_on_of_nodup_map hnodup hl' hl hkey
    exact (hrel l' hl' r hr hsymbol).2

end Right

/-! ### Where it is not -/

/-- A long position. -/
def holding (quantity : ℚ) (s : Symbol) : Position where
  id := 0
  symbol := s
  side := .long
  quantity := quantity
  entryPrice := 1
  currentPrice := 1
  openedAt := 0
  strategyName := "grid"
  tradingMode := .live

section Wrong

variable {exchange : ExchangeID} {symbols exchangeSymbols : List Symbol}

@[simp] theorem map_symbol_holding (quantity : ℚ) (symbols : List Symbol) :
    (symbols.map (holding quantity)).map Position.symbol = symbols := by
  rw [List.map_map]
  exact List.map_id symbols

theorem map_str_holding (quantity : ℚ) (symbols : List Symbol) :
    ((symbols.map (holding quantity)).map fun p => p.symbol.str) = symbols.map Symbol.str := by
  rw [map_str, map_symbol_holding]

theorem exists_eq_holding_of_get? {quantity : ℚ} {k : String} {p : Position}
    (h : (bySymbol (symbols.map (holding quantity))).get? k = some p) :
    ∃ s, p = holding quantity s := by
  obtain ⟨s, -, rfl⟩ := List.mem_map.1 (mem_of_get?_bySymbol h).1
  exact ⟨s, rfl⟩

theorem sameAmount_holding (quantity : ℚ) (s t : Symbol) :
    SameAmount (holding quantity s) (holding quantity t) := by
  refine ⟨rfl, ?_⟩
  change |quantity - quantity| ≤ quantityTolerance
  rw [sub_self, abs_zero]
  decide +kernel

/-- For equal amounts only the keys count. -/
theorem foundClean_holding
    (h : ∀ k, k ∈ symbols.map Symbol.str ↔ k ∈ exchangeSymbols.map Symbol.str) :
    FoundClean (symbols.map (holding 1)) (exchangeSymbols.map (holding 1)) := by
  refine foundClean_of_alike (by simpa only [map_str_holding] using h) fun k l r hl hr => ?_
  obtain ⟨s, rfl⟩ := exists_eq_holding_of_get? hl
  obtain ⟨t, rfl⟩ := exists_eq_holding_of_get? hr
  exact sameAmount_holding 1 s t

/-- For equal amounts only the symbols count. -/
theorem positionsMatch_holding
    (h : (symbols.filter fun s => s.exchange = exchange).Perm exchangeSymbols) :
    PositionsMatch exchange (symbols.map (holding 1)) (exchangeSymbols.map (holding 1)) := by
  refine paired_of_perm_map (f := Position.symbol) (g := Position.symbol) ?_ ?_
  · rwa [map_filter_symbol, map_symbol_holding, map_symbol_holding]
  · intro l hl r hr hsymbol
    obtain ⟨s, -, rfl⟩ := List.mem_map.1 (List.mem_of_mem_filter hl)
    obtain ⟨t, -, rfl⟩ := List.mem_map.1 hr
    exact ⟨hsymbol, sameAmount_holding 1 s t⟩

/-- The larger of two positions with one rendered symbol is overwritten and not missed. -/
theorem foundClean_twice {before after : List Symbol} {s : Symbol}
    (hs : s.str ∈ after.map Symbol.str)
    (h : ∀ k, k ∈ (before ++ s :: after).map Symbol.str ↔ k ∈ exchangeSymbols.map Symbol.str) :
    FoundClean (before.map (holding 1) ++ holding 5 s :: after.map (holding 1))
      (exchangeSymbols.map (holding 1)) := by
  have hkeys : ∀ k, k ∈ (before ++ after).map Symbol.str ↔ k ∈ exchangeSymbols.map Symbol.str := by
    intro k
    rw [← h k, List.map_append, List.map_append, List.map_cons, List.mem_append, List.mem_append,
      List.mem_cons]
    exact or_congr_right (or_iff_right_of_imp fun hk => hk ▸ hs).symm
  have hclean := foundClean_holding hkeys
  rw [List.map_append] at hclean
  intro k
  rw [get?_bySymbol_overwritten (by rwa [map_str_holding])]
  exact hclean k

theorem not_positionsMatch_of_larger {positions : List Position} {s : Symbol}
    (hs : holding 5 s ∈ positions) (hown : s.exchange = exchange) :
    ¬ PositionsMatch exchange positions (exchangeSymbols.map (holding 1)) := by
  intro h
  obtain ⟨r, hr, -, -, hquantity⟩ := Paired.exists_right h
    (List.mem_filter.2 ⟨hs, decide_eq_true hown⟩)
  obtain ⟨t, -, rfl⟩ := List.mem_map.1 hr
  change |(5 : ℚ) - 1| ≤ quantityTolerance at hquantity
  exact absurd hquantity (by decide +kernel)

/-- Symbols that agree on both sides, rendered or not, are all of the exchange. -/
theorem exchange_eq_of_perm
    (hperm : (symbols.filter fun s => s.exchange = exchange).Perm exchangeSymbols)
    (hkeys : ∀ k, k ∈ symbols.map Symbol.str ↔ k ∈ exchangeSymbols.map Symbol.str) :
    ∀ s ∈ symbols, s.exchange = exchange := by
  intro s hs
  obtain ⟨r, hr, hstr⟩ := List.mem_map.1 ((hkeys _).1 (List.mem_map_of_mem hs))
  have hsame : r.exchange = s.exchange := congrArg Prod.fst ((Symbol.str_eq_iff r s).1 hstr)
  rw [← hsame]
  exact of_decide_eq_true (List.mem_filter.1 (hperm.mem_iff.2 hr)).2

end Wrong

/-- For positions with given symbols a reconciliation is right, whatever their sides and
quantities, exactly if the symbols agree one to one, belong to the exchange and are all rendered
differently, or cannot agree at all. -/
theorem clean_iff_positionsMatch_iff_reconcilable (exchange : ExchangeID)
    (startedAt completedAt : Timestamp) (symbols exchangeSymbols : List Symbol) :
    (∀ positions exchangePositions : List Position, positions.map Position.symbol = symbols →
        exchangePositions.map Position.symbol = exchangeSymbols →
        (((ReconciliationEngine.mk .live exchange).reconcile startedAt completedAt positions
            (.ok exchangePositions)).status = .clean ↔
          PositionsMatch exchange positions exchangePositions)) ↔
      Reconcilable exchange symbols exchangeSymbols := by
  simp only [status_reconcile_eq_clean_iff]
  constructor
  · intro h
    have hequal := h (symbols.map (holding 1)) (exchangeSymbols.map (holding 1))
      (map_symbol_holding 1 symbols) (map_symbol_holding 1 exchangeSymbols)
    by_cases hkeys : ∀ k, k ∈ symbols.map Symbol.str ↔ k ∈ exchangeSymbols.map Symbol.str
    · have hperm := (hequal.1 (foundClean_holding hkeys)).perm
      rw [map_symbol_holding, map_symbol_holding] at hperm
      have hown := exchange_eq_of_perm hperm hkeys
      have hall : symbols.filter (fun s => s.exchange = exchange) = symbols :=
        List.filter_eq_self.2 fun s hs => decide_eq_true (hown s hs)
      rw [hall] at hperm
      refine .inl ⟨hperm, hown, not_not.1 fun htwice => ?_⟩
      obtain ⟨before, s, after, rfl, hs⟩ := exists_append_of_not_nodup_map htwice
      have hlarger := h (before.map (holding 1) ++ holding 5 s :: after.map (holding 1))
        (exchangeSymbols.map (holding 1))
        (by rw [List.map_append, List.map_cons, map_symbol_holding, map_symbol_holding]; rfl)
        (map_symbol_holding 1 exchangeSymbols)
      have hmem : s ∈ before ++ s :: after := List.mem_append_right _ List.mem_cons_self
      exact not_positionsMatch_of_larger (List.mem_append_right _ List.mem_cons_self)
        (hown s hmem) (hlarger.1 (foundClean_twice hs hkeys))
    · refine .inr ⟨hkeys, fun hperm => hkeys fun k => ?_⟩
      have hclean : FoundClean _ _ := hequal.2 (positionsMatch_holding hperm)
      simpa only [map_str_holding] using hclean.mem_iff k
  · rintro (⟨hperm, hown, hnodup⟩ | ⟨hkeys, hperm⟩) positions exchangePositions rfl rfl
    · refine foundClean_iff_positionsMatch hperm (fun p hp => hown _ (List.mem_map_of_mem hp)) ?_
      rwa [map_str]
    · constructor
      · intro hclean
        refine absurd (fun k => ?_) hkeys
        have hmem := FoundClean.mem_iff hclean k
        rwa [map_str, map_str] at hmem
      · exact fun hmatch => absurd hmatch.perm hperm

/-- A position on another exchange is reported as missing on this one. -/
theorem not_forall_clean_iff_positionsMatch :
    ¬ ∀ (exchange : ExchangeID) (startedAt completedAt : Timestamp)
      (positions exchangePositions : List Position),
      ((ReconciliationEngine.mk .live exchange).reconcile startedAt completedAt positions
          (.ok exchangePositions)).status = .clean ↔
        PositionsMatch exchange positions exchangePositions := by
  intro h
  have hclean := (h .pionex 0 0 [holding 1 btcUsdt] []).2 ⟨[], List.Perm.refl _, .nil⟩
  exact absurd hclean (by decide +kernel)

end Sgr
