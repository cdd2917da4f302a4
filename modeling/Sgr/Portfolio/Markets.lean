import Sgr.Portfolio.FailingWrites

/-!
# Positions of different markets

A position is kept under the text of its symbol, its row is looked up by the pair and the
exchange, and a candle reprices by the pair alone. Two markets are kept apart by all three
exactly when their pairs are different: a fill leaves the markets of other exchanges alone, a
candle does not, and neither sees the asset class.
-/

open Collection Concurrency

namespace Sgr

/-- What happens on a market. -/
inductive MarketEvent
  | fill (f : FillCall)
  | candle (symbol : Symbol) (close : ℚ)

/-- The prices that `on_candle_event` passes to `update_prices`. -/
def candlePrices (symbol : Symbol) (close : ℚ) (text : String) : Option ℚ :=
  if text = symbol.ccxtSymbol then some close else none

namespace MarketEvent

/-- The market of an event. -/
def market : MarketEvent → Symbol
  | fill f => f.result.symbol
  | candle symbol _ => symbol

/-- The call of the portfolio engine. -/
def call : MarketEvent → PortfolioCall
  | fill f => .onOrderFilled f
  | candle symbol close => .updatePrices (candlePrices symbol close)

end MarketEvent

/-- An event, and which of the writes of its call fail. -/
structure MarketCall where
  event : MarketEvent
  fails : ℕ → Bool := fun _ => false

/-- The fills and candles of all markets, one after the other. -/
def marketMachine (cfg : StoredConfig) : Machine StoredPortfolio MarketCall where
  next S c := (failingMachine cfg).next S ⟨c.event.call, c.fails⟩

/-- The position of a market. -/
def PortfolioState.positionOf (s : PortfolioState) (symbol : Symbol) : Option Position :=
  (s.positions.get? symbol.str).filter fun p => p.symbol = symbol

/-- The row is one that `upsert_open` finds for a market. -/
def isOpenRowOf (cfg : StoredConfig) (symbol : Symbol) (r : PositionRow) : Bool :=
  isOwnOpen cfg r && r.symbol = symbol.ccxtSymbol && r.exchange = symbol.exchange

/-- The open rows of a market. -/
def openRowsOf (cfg : StoredConfig) (T : PositionTable) (symbol : Symbol) : List PositionRow :=
  T.rows.filter (isOpenRowOf cfg symbol)

/-- An event keeps the market `p` apart from `q`: they share neither a key nor an open row, and
what happens on `p` leaves the position of `q` and its rows as they are. -/
structure KeepsApart (cfg : StoredConfig) (p q : Symbol) (S : StoredPortfolio) (e : MarketEvent)
    (S' : StoredPortfolio) : Prop where
  key : p.str ≠ q.str
  row : ∀ r ∈ S'.table.rows, isOpenRowOf cfg p r = true → isOpenRowOf cfg q r = false
  position : e.market = p → S'.portfolio.positionOf q = S.portfolio.positionOf q
  rows : e.market = p → openRowsOf cfg S'.table q = openRowsOf cfg S.table q

/-- In every run of a new engine, every event keeps `p` apart from `q`. -/
def MarketsApart (cfg : StoredConfig) (p q : Symbol) : Prop :=
  ∀ (cash : ℚ) (gate : Option LiveVerificationState) (T : PositionTable)
    (calls : List MarketCall) (S : StoredPortfolio) (c : MarketCall) (S' : StoredPortfolio),
    (marketMachine cfg).run ⟨.init cash gate, T⟩ calls = some S →
      (marketMachine cfg).next S c = some S' → KeepsApart cfg p q S c.event S'

section Rows

variable {cfg : StoredConfig} {T T' : PositionTable} {p : Position} {q : Symbol}

theorem isOpenRowOf_iff {r : PositionRow} :
    isOpenRowOf cfg q r = true ↔
      isOwnOpen cfg r = true ∧ r.symbol = q.ccxtSymbol ∧ r.exchange = q.exchange := by
  simp [isOpenRowOf, and_assoc]

theorem key_of_isOpenRowOf {r : PositionRow} (h : isOpenRowOf cfg q r = true) :
    r.key = q.str := by
  obtain ⟨-, hsymbol, hexchange⟩ := isOpenRowOf_iff.1 h
  rw [PositionRow.key, hsymbol, hexchange]
  rfl

/-- A row of another market is no open row. -/
theorem isOpenRowOf_eq_false {r : PositionRow} {p : Symbol} (hne : p.str ≠ q.str)
    (hsymbol : r.symbol = p.ccxtSymbol) (hexchange : r.exchange = p.exchange) :
    isOpenRowOf cfg q r = false := by
  rw [Bool.eq_false_iff]
  intro h
  have hkey := key_of_isOpenRowOf h
  rw [PositionRow.key, hsymbol, hexchange] at hkey
  exact hne hkey

/-- Updating a row that is not one of the market, and does not become one. -/
theorem openRowsOf_update {id : UUID} {f : PositionRow → PositionRow}
    (hf : ∀ r, (f r).id = r.id)
    (hother : ∀ r ∈ T.rows, r.id = id →
      isOpenRowOf cfg q r = false ∧ isOpenRowOf cfg q (f r) = false) :
    openRowsOf cfg (T.update id f hf) q = openRowsOf cfg T q := by
  unfold openRowsOf PositionTable.update
  dsimp only
  generalize T.rows = rows at hother
  induction rows with
  | nil => rfl
  | cons r rows ih =>
      have hrest := ih fun r' hr' => hother r' (List.mem_cons_of_mem r hr')
      rw [List.map_cons]
      by_cases hid : r.id = id
      · obtain ⟨hbefore, hafter⟩ := hother r List.mem_cons_self hid
        rw [if_pos hid, List.filter_cons_of_neg (by simp [hafter]),
          List.filter_cons_of_neg (by simp [hbefore]), hrest]
      · rw [if_neg hid, List.filter_cons, List.filter_cons, hrest]

theorem openRowsOf_upsertOpen (hne : p.symbol.str ≠ q.str) (h : T.upsertOpen cfg p = some T') :
    openRowsOf cfg T' q = openRowsOf cfg T q := by
  unfold PositionTable.upsertOpen at h
  split at h
  next existing hfind =>
    obtain rfl := Option.some.inj h
    have hmem := List.mem_of_find?_eq_some hfind
    have hmatches := List.find?_some hfind
    simp only [isRowOf, Bool.and_eq_true, decide_eq_true_eq] at hmatches
    obtain ⟨⟨⟨⟨hsymbol, hexchange⟩, -⟩, -⟩, -⟩ := hmatches
    refine openRowsOf_update _ fun r hr hid => ?_
    obtain rfl := PositionTable.eq_of_id hr hmem hid
    exact ⟨isOpenRowOf_eq_false hne hsymbol hexchange,
      isOpenRowOf_eq_false hne hsymbol hexchange⟩
  next =>
    split at h
    next => cases h
    next =>
      obtain rfl := Option.some.inj h
      have hrow : isOpenRowOf cfg q (positionRow cfg p) = false :=
        isOpenRowOf_eq_false hne rfl rfl
      unfold openRowsOf
      rw [List.filter_append, List.filter_singleton, hrow]
      exact List.append_nil _

/-- Upserts for positions of other markets, some of which fail. -/
theorem openRowsOf_attemptAll {ps : List Position} (hne : ∀ p ∈ ps, p.symbol.str ≠ q.str)
    (fails : ℕ → Bool) (n : ℕ) (T : PositionTable) :
    openRowsOf cfg (attemptAll cfg fails n (ps.map .upsert) T) q = openRowsOf cfg T q := by
  induction ps generalizing T n with
  | nil => rfl
  | cons p ps ih =>
      have hfirst : openRowsOf cfg ((RowWrite.upsert p).attempt cfg (fails n) T) q =
          openRowsOf cfg T q := by
        unfold RowWrite.attempt
        cases fails n with
        | true => rfl
        | false =>
            change openRowsOf cfg ((T.upsertOpen cfg p).getD T) q = _
            cases hupsert : T.upsertOpen cfg p with
            | none => rfl
            | some T' => exact openRowsOf_upsertOpen (hne p List.mem_cons_self) hupsert
      rw [List.map_cons, attemptAll, ih (fun p' hp' => hne p' (List.mem_cons_of_mem p hp')),
        hfirst]

/-- A close of an id that no open row of the market has. -/
theorem openRowsOf_attempt_close {id : UUID}
    (hother : ∀ r ∈ T.rows, r.id = id → r.key ≠ q.str) (realizedPnl : ℚ) (fails : Bool) :
    openRowsOf cfg ((RowWrite.close id realizedPnl).attempt cfg fails T) q =
      openRowsOf cfg T q := by
  unfold RowWrite.attempt
  cases fails with
  | true => rfl
  | false =>
      change openRowsOf cfg (T.update id (fun r =>
        { r with isOpen := false, realizedPnl := cfg.column 8 realizedPnl }) fun _ => rfl) q = _
      refine openRowsOf_update _ fun r hr hid => ⟨?_, ?_⟩
      · rw [Bool.eq_false_iff]
        exact fun h => hother r hr hid (key_of_isOpenRowOf h)
      · simp [isOpenRowOf, isOwnOpen]

end Rows

section Steps

variable {cfg : StoredConfig} {S S' : StoredPortfolio} {p q : Symbol} {c : MarketCall}

/-- A fill leaves the open rows of a market with another key. -/
theorem FillEffect.openRowsOf_eq {f : FillCall} {t : PortfolioState} {ws : List RowWrite}
    (h : FillEffect cfg f S.portfolio t ws) (hkeyed : IsKeyed cfg S) (hne : f.key ≠ q.str)
    (fails : ℕ → Bool) :
    openRowsOf cfg (attemptAll cfg fails 0 ws S.table) q = openRowsOf cfg S.table q := by
  cases h with
  | rests hsame => rfl
  | opens hflat hstores hps =>
      refine openRowsOf_attemptAll (fun p hp => ?_) fails 0 S.table
      rwa [(hps p (List.mem_cons_of_mem _ hp)).key]
  | @reduces p p' hget hstores hq =>
      obtain ⟨hkey, hmode⟩ := hkeyed.held f.key p hget
      refine @openRowsOf_attemptAll cfg q [p'] (fun x hx => ?_) fails 0 S.table
      obtain rfl := List.mem_singleton.1 hx
      rwa [(hq hkey hmode).key]
  | @closes p realizedPnl hget hstores =>
      refine openRowsOf_attempt_close (fun r hr hid hkey => ?_) realizedPnl (fails 0)
      have hregistered : S.portfolio.ids f.key = some r.id := by
        rw [PortfolioState.ids, hget, hid]
        rfl
      exact hne ((hkeyed.keyed.entries (rowEntry cfg r) (List.mem_map_of_mem hr) f.key
        hregistered).symm.trans hkey)

/-- A fill leaves what is held under another key. -/
theorem FillEffect.get?_eq {f : FillCall} {s t : PortfolioState} {ws : List RowWrite}
    (h : FillEffect cfg f s t ws) {key : String} (hne : key ≠ f.key) :
    t.positions.get? key = s.positions.get? key := by
  cases h with
  | rests hsame => rw [hsame]
  | opens hflat hstores hps => rw [hstores, if_neg hne]
  | reduces hget hstores hq => rw [hstores, if_neg hne]
  | closes hget hstores => rw [hstores, if_neg hne]

/-- Prices of other pairs leave the position of a market. -/
theorem positionOf_updatePrices {prices : String → Option ℚ} (h : prices q.ccxtSymbol = none)
    (s : PortfolioState) : (updatePrices prices s).positionOf q = s.positionOf q := by
  rw [PortfolioState.positionOf, PortfolioState.positionOf, get?_updatePrices]
  cases s.positions.get? q.str with
  | none => rfl
  | some p =>
      rw [Option.map_some, Position.atPrices]
      by_cases hp : p.symbol = q
      · rw [hp, h]
        rfl
      · have hnone (p' : Position) (hp' : p'.symbol = p.symbol) :
            (some p').filter (fun p => decide (p.symbol = q)) = none := by
          simp [hp', hp]
        cases prices p.symbol.ccxtSymbol with
        | none => rfl
        | some price => exact (hnone (repriced p price) rfl).trans (hnone p rfl).symm

/-- A candle of the pair of a market reprices its position, on whatever exchange. -/
theorem positionOf_of_candle {s : PortfolioState} {x : Position} {close : ℚ}
    (hpair : p.ccxtSymbol = q.ccxtSymbol) (hx : s.positionOf q = some x) :
    (updatePrices (candlePrices p close) s).positionOf q = some (repriced x close) := by
  obtain ⟨hget, hsymbol⟩ := Option.filter_eq_some_iff.1 hx
  have hclose : candlePrices p close x.symbol.ccxtSymbol = some close := by
    rw [of_decide_eq_true hsymbol]
    exact if_pos hpair.symm
  rw [PortfolioState.positionOf, get?_updatePrices, hget, Option.map_some, Position.atPrices,
    hclose]
  exact Option.filter_some_pos hsymbol

theorem next_fill {f : FillCall} (fails : ℕ → Bool) (hnew : f.HasNewId S) :
    (marketMachine cfg).next S ⟨.fill f, fails⟩ =
      (onOrderFilled cfg.toPortfolioConfig f S.portfolio).map fun t =>
        ⟨t, attemptAll cfg fails 0 (fillWrites cfg f S.portfolio) S.table⟩ := by
  simp only [marketMachine, failingMachine, MarketEvent.call, if_pos hnew]

/-- A fill keeps its market apart from those with another key. -/
theorem fill_leaves {f : FillCall} {fails : ℕ → Bool} (hkeyed : IsKeyed cfg S)
    (hnext : (marketMachine cfg).next S ⟨.fill f, fails⟩ = some S') (hne : f.key ≠ q.str) :
    S'.portfolio.positionOf q = S.portfolio.positionOf q ∧
      openRowsOf cfg S'.table q = openRowsOf cfg S.table q := by
  obtain ⟨-, hnext⟩ := Option.ite_none_right_eq_some.1 hnext
  obtain ⟨t, hfill, rfl⟩ := Option.map_eq_some_iff.1 hnext
  have heffect := fillEffect_of_some hfill
  constructor
  · rw [PortfolioState.positionOf, PortfolioState.positionOf, heffect.get?_eq (Ne.symm hne)]
  · exact heffect.openRowsOf_eq hkeyed hne fails

/-- A candle keeps its market apart from those of other pairs. -/
theorem candle_leaves {close : ℚ} {fails : ℕ → Bool}
    (hnext : (marketMachine cfg).next S ⟨.candle p close, fails⟩ = some S')
    (hne : p.ccxtSymbol ≠ q.ccxtSymbol) :
    S'.portfolio.positionOf q = S.portfolio.positionOf q ∧
      openRowsOf cfg S'.table q = openRowsOf cfg S.table q := by
  obtain rfl := Option.some.inj hnext
  constructor
  · exact positionOf_updatePrices (if_neg (Ne.symm hne)) S.portfolio
  · dsimp only
    rw [priceWrites_eq]
    refine openRowsOf_attemptAll (fun x hx hstr => ?_) fails 0 S.table
    obtain ⟨e, -, hrepriced⟩ := List.mem_filterMap.1 hx
    obtain ⟨price, hprice, rfl⟩ := Option.map_eq_some_iff.1 hrepriced
    obtain ⟨hpair, -⟩ := Option.ite_none_right_eq_some.1 hprice
    have haccount := (Symbol.str_eq_iff e.2.symbol q).1 hstr
    exact hne (hpair.symm.trans (congrArg Prod.snd haccount))

theorem isKeyed_of_run {cash : ℚ} {gate : Option LiveVerificationState} {T : PositionTable}
    {calls : List MarketCall}
    (hrun : (marketMachine cfg).run ⟨.init cash gate, T⟩ calls = some S) : IsKeyed cfg S := by
  refine (marketMachine cfg).run_invariant (IsKeyed cfg) ?_ ?_ hrun
  · intro S c S' hS hnext
    exact (@followsKey_iff_of_next cfg S S' _ "" hS hnext).1
  · exact
      { held := fun _ _ h => (by cases h)
        keyed := ⟨fun _ _ _ h => (by cases h), fun _ _ _ h => (by cases h)⟩ }

theorem str_ne_of_ccxtSymbol_ne (hne : p.ccxtSymbol ≠ q.ccxtSymbol) : p.str ≠ q.str := by
  intro h
  exact hne (congrArg Prod.snd ((Symbol.str_eq_iff p q).1 h))

/-- An event on a market of another pair keeps the markets apart. -/
theorem keepsApart_of_next (hkeyed : IsKeyed cfg S)
    (hnext : (marketMachine cfg).next S c = some S') (hne : p.ccxtSymbol ≠ q.ccxtSymbol) :
    KeepsApart cfg p q S c.event S' := by
  have hleaves (hmarket : c.event.market = p) :
      S'.portfolio.positionOf q = S.portfolio.positionOf q ∧
        openRowsOf cfg S'.table q = openRowsOf cfg S.table q := by
    obtain ⟨e, fails⟩ := c
    cases e with
    | fill f =>
        refine fill_leaves hkeyed hnext ?_
        rw [FillCall.key, show f.result.symbol = p from hmarket]
        exact str_ne_of_ccxtSymbol_ne hne
    | candle symbol close =>
        obtain rfl : symbol = p := hmarket
        exact candle_leaves hnext hne
  refine ⟨str_ne_of_ccxtSymbol_ne hne, fun r _ hp => ?_, fun h => (hleaves h).1,
    fun h => (hleaves h).2⟩
  obtain ⟨-, hsymbol, hexchange⟩ := isOpenRowOf_iff.1 hp
  exact isOpenRowOf_eq_false (str_ne_of_ccxtSymbol_ne hne) hsymbol hexchange

/-- A fill that opens a long position of 1 on a market. -/
def openingFill (symbol : Symbol) : FillCall :=
  let f := FillCall.btc 1 .buy 1 100
  { f with result := { f.result with symbol := symbol } }

/-- The position that the fill opens, with or without protection. -/
theorem exists_positionOf_openPosition (cfg : PortfolioConfig) (q : Symbol)
    (s : PortfolioState) :
    ∃ x, (openPosition cfg (openingFill q) 100 s).positionOf q = some x ∧
      x.currentPrice = 100 := by
  have hget := (writes_openPosition cfg (openingFill q) 100 s).stores (openingFill q).key
  rw [if_pos rfl] at hget
  have hkept : ∀ x, (protectedPosition cfg (openingFill q)
      (openedPosition cfg (openingFill q) 100)).getD (openedPosition cfg (openingFill q) 100) = x →
        x.symbol = q ∧ x.currentPrice = 100 := by
    rintro x rfl
    cases hprotected : protectedPosition cfg (openingFill q)
        (openedPosition cfg (openingFill q) 100) with
    | none => exact ⟨rfl, rfl⟩
    | some p =>
        rw [Option.getD_some, setsProtectionOnly_hook cfg _ _ p hprotected]
        exact ⟨rfl, rfl⟩
  obtain ⟨hsymbol, hprice⟩ := hkept _ rfl
  refine ⟨_, ?_, hprice⟩
  rw [PortfolioState.positionOf, show q.str = (openingFill q).key from rfl, hget]
  exact Option.filter_some_pos (decide_eq_true hsymbol)

/-- A new engine takes the fill. -/
theorem exists_opened (cfg : StoredConfig) (q : Symbol) :
    ∃ S x, (marketMachine cfg).run ⟨.init 0 none, .empty⟩ [{ event := .fill (openingFill q) }] =
        some S ∧ S.portfolio.positionOf q = some x ∧ x.currentPrice = 100 := by
  have hprice : acceptedPrice (openingFill q).result = some 100 := by
    have hquantity : ¬ (1 : ℚ) ≤ 0 := by decide
    simp [acceptedPrice, openingFill, FillCall.btc, hquantity]
  have hfill : onOrderFilled cfg.toPortfolioConfig (openingFill q) (.init 0 none) =
      some (openPosition cfg.toPortfolioConfig (openingFill q) 100 (.init 0 none)).updatePeak := by
    unfold onOrderFilled
    rw [hprice]
    rfl
  have hnew : (openingFill q).HasNewId ⟨.init 0 none, .empty⟩ := fun _ =>
    ⟨fun _ h => (by cases h), fun _ h => (by cases h)⟩
  have hnext := @next_fill cfg _ _ (fun _ => false) hnew
  rw [hfill, Option.map_some] at hnext
  obtain ⟨x, hx, hprice⟩ :=
    exists_positionOf_openPosition cfg.toPortfolioConfig q (.init 0 none)
  refine ⟨_, x, (Machine.run_cons _ _ _ _).trans (congrArg (Option.bind · _) hnext), ?_, hprice⟩
  rw [← hx, PortfolioState.positionOf, PortfolioState.positionOf,
    PortfolioState.updatePeak_positions]

/-- A candle of one market reprices the position of another market with its pair. -/
theorem not_marketsApart (cfg : StoredConfig) (hpair : p.ccxtSymbol = q.ccxtSymbol) :
    ¬ MarketsApart cfg p q := by
  intro h
  obtain ⟨S, x, hrun, hx, hprice⟩ := exists_opened cfg q
  have happart := h 0 none .empty _ S { event := .candle p 90 } _ hrun rfl
  have hposition := happart.position rfl
  rw [positionOf_of_candle hpair hx] at hposition
  have hclose : (90 : ℚ) = x.currentPrice :=
    congrArg Position.currentPrice (Option.some.inj (hposition.trans hx))
  rw [hprice] at hclose
  exact absurd hclose (by decide)

/-- Two markets are kept apart in all runs exactly when their pairs are different. -/
theorem marketsApart_iff (cfg : StoredConfig) (p q : Symbol) :
    MarketsApart cfg p q ↔ p.ccxtSymbol ≠ q.ccxtSymbol := by
  constructor
  · intro h hpair
    exact not_marketsApart cfg hpair h
  · intro hne cash gate T calls S c S' hrun hnext
    exact keepsApart_of_next (isKeyed_of_run hrun) hnext hne

/-- One pair on two exchanges. -/
theorem not_forall_marketsApart :
    ¬ ∀ (cfg : StoredConfig) (p q : Symbol), p ≠ q → MarketsApart cfg p q := by
  intro h
  have happart := h .exact ⟨"BTC", "USDT", .pionex, .futures⟩ btcUsdt (by decide)
  refine not_marketsApart .exact ?_ happart
  rfl

end Steps

end Sgr
