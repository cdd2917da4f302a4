import Mathlib.Data.List.Sort
import Sgr.Core.SymbolText
import Sgr.Portfolio.Equity

/-!
# The stored positions

`PositionRepository` of `sgr/core/repositories.py` and the calls of the portfolio engine
together with what they write to the `positions` table, for runs in which every write
succeeds. A crash leaves the table, from which `restore_from_persistence` builds the
positions of the next engine and, from their entry prices, its cash.
-/

open Collection Concurrency

namespace Sgr

/-- A row of the `positions` table. -/
structure PositionRow where
  id : UUID
  symbol : String
  exchange : ExchangeID
  side : PositionSide
  quantity : ℚ
  entryPrice : ℚ
  currentPrice : ℚ
  leverage : ℚ
  unrealizedPnl : ℚ
  realizedPnl : ℚ
  isOpen : Bool
  openedAt : Timestamp
  strategyName : String
  tradingMode : TradingMode
  userId : Option String
  stopLossPrice : Option ℚ
  takeProfitPrice : Option ℚ
  maxHoldingUntil : Option Timestamp
  slOrderId : Option String
  tpOrderId : Option String
  entryRegime : Option MarketRegime
  deriving DecidableEq

/-- The table; the id is its primary key. -/
structure PositionTable where
  rows : List PositionRow
  nodup_ids : (rows.map PositionRow.id).Nodup

/-- An engine with a repository. -/
structure StoredConfig extends PortfolioConfig where
  initialCash : ℚ
  tenantId : Option String := none
  /-- What a `Numeric` column with so many decimals keeps of a number. -/
  column : ℕ → ℚ → ℚ

/-- The row that `_persist_position_upsert` writes for a new position. -/
def positionRow (cfg : StoredConfig) (p : Position) : PositionRow where
  id := p.id
  symbol := p.symbol.ccxtSymbol
  exchange := p.symbol.exchange
  side := p.side
  quantity := cfg.column 8 p.quantity
  entryPrice := cfg.column 8 p.entryPrice
  currentPrice := cfg.column 8 p.currentPrice
  leverage := cfg.column 2 p.leverage
  unrealizedPnl := cfg.column 8 p.unrealizedPnl
  realizedPnl := cfg.column 8 p.realizedPnl
  isOpen := true
  openedAt := p.openedAt
  strategyName := p.strategyName
  tradingMode := p.tradingMode
  userId := cfg.tenantId
  stopLossPrice := p.stopLossPrice.map (cfg.column 8)
  takeProfitPrice := p.takeProfitPrice.map (cfg.column 8)
  maxHoldingUntil := p.maxHoldingUntil
  slOrderId := p.slOrderId
  tpOrderId := p.tpOrderId
  entryRegime := p.entryRegime

/-- The row is the one that `upsert_open` updates for a position. -/
def isRowOf (cfg : StoredConfig) (p : Position) (r : PositionRow) : Bool :=
  r.symbol = p.symbol.ccxtSymbol && r.exchange = p.symbol.exchange &&
    r.tradingMode = p.tradingMode && r.isOpen && r.userId = cfg.tenantId

/-- The update of a row; its id, its symbol, its mode and its opening time stay. -/
def updatedRow (cfg : StoredConfig) (p : Position) (r : PositionRow) : PositionRow :=
  { positionRow cfg p with
    id := r.id
    symbol := r.symbol
    exchange := r.exchange
    tradingMode := r.tradingMode
    openedAt := r.openedAt
    isOpen := r.isOpen }

namespace PositionTable

/-- `UPDATE ... WHERE id = ...`. -/
def update (T : PositionTable) (id : UUID) (f : PositionRow → PositionRow)
    (hf : ∀ r, (f r).id = r.id) : PositionTable where
  rows := T.rows.map fun r => if r.id = id then f r else r
  nodup_ids := by
    have hids : (T.rows.map fun r => if r.id = id then f r else r).map PositionRow.id =
        T.rows.map PositionRow.id := by
      rw [List.map_map]
      refine List.map_congr_left fun r _ => ?_
      simp only [Function.comp_apply]
      split
      · exact hf r
      · rfl
    rw [hids]
    exact T.nodup_ids

/-- `upsert_open`; `none` is an error of the database. -/
def upsertOpen (cfg : StoredConfig) (p : Position) (T : PositionTable) : Option PositionTable :=
  match T.rows.find? (isRowOf cfg p) with
  | some existing => some (T.update existing.id (updatedRow cfg p) fun _ => rfl)
  | none =>
      if h : p.id ∈ T.rows.map PositionRow.id then none
      else
        some
          { rows := T.rows ++ [positionRow cfg p]
            nodup_ids := by
              rw [List.map_append, List.map_singleton]
              exact List.Nodup.append T.nodup_ids (List.nodup_singleton _)
                (List.disjoint_singleton.2 h) }

/-- `close`. -/
def close (cfg : StoredConfig) (id : UUID) (realizedPnl : ℚ) (T : PositionTable) :
    PositionTable :=
  T.update id (fun r => { r with isOpen := false, realizedPnl := cfg.column 8 realizedPnl })
    fun _ => rfl

end PositionTable

/-- The rows that `get_open_positions` selects. -/
def isVisible (cfg : StoredConfig) (r : PositionRow) : Bool :=
  r.tradingMode = cfg.tradingMode && r.isOpen &&
    (cfg.tenantId.isNone || r.userId = cfg.tenantId)

/-- `get_open_positions`. -/
def getOpenPositions (cfg : StoredConfig) (T : PositionTable) : List PositionRow :=
  (T.rows.filter (isVisible cfg)).insertionSort fun r r' => r.openedAt ≤ r'.openedAt

/-- The symbol of a row: `partition("/")` of its text, on the spot market. -/
def symbolOfRow (r : PositionRow) : Symbol where
  base := String.ofList (r.symbol.toList.takeWhile (· ≠ '/'))
  quote := String.ofList ((r.symbol.toList.dropWhile (· ≠ '/')).drop 1)
  exchange := r.exchange
  assetClass := .spot

/-- `_position_from_row`. -/
def positionFromRow (r : PositionRow) : Position where
  id := r.id
  symbol := symbolOfRow r
  side := r.side
  quantity := r.quantity
  entryPrice := r.entryPrice
  currentPrice := r.currentPrice
  leverage := r.leverage
  unrealizedPnl := r.unrealizedPnl
  realizedPnl := r.realizedPnl
  openedAt := r.openedAt
  strategyName := r.strategyName
  tradingMode := r.tradingMode
  stopLossPrice := r.stopLossPrice
  takeProfitPrice := r.takeProfitPrice
  maxHoldingUntil := r.maxHoldingUntil
  slOrderId := r.slOrderId
  tpOrderId := r.tpOrderId
  entryRegime := r.entryRegime

/-- The turn of the loop of `restore_from_persistence` for a converted row. -/
def PortfolioState.takeOver (s : PortfolioState) (p : Position) : PortfolioState :=
  { s with
    positions := s.positions.set p.symbol.str p
    cash :=
      if p.side = .long then s.cash - p.quantity * p.entryPrice
      else s.cash + p.quantity * p.entryPrice }

/-- One turn of the loop of `restore_from_persistence`. -/
def restorePosition (s : PortfolioState) (r : PositionRow) : PortfolioState :=
  let p := positionFromRow r
  { s with
    positions := s.positions.set p.symbol.str p
    cash :=
      if p.side = .long then s.cash - p.quantity * p.entryPrice
      else s.cash + p.quantity * p.entryPrice }

/-- `restore_from_persistence` of a fresh engine. -/
def restoreFromPersistence (cfg : StoredConfig) (gate : Option LiveVerificationState)
    (T : PositionTable) : PortfolioState :=
  ((getOpenPositions cfg T).foldl restorePosition (.init cfg.initialCash gate)).updatePeak

/-! ### The calls and their writes -/

/-- A write to the table. -/
inductive RowWrite
  /-- `_persist_position_upsert`. -/
  | upsert (p : Position)
  /-- `_persist_position_close`. -/
  | close (id : UUID) (realizedPnl : ℚ)

/-- A write, which fails when the database does. -/
def RowWrite.apply (cfg : StoredConfig) (T : PositionTable) : RowWrite → Option PositionTable
  | .upsert p => T.upsertOpen cfg p
  | .close id realizedPnl => some (T.close cfg id realizedPnl)

/-- The writes of `on_order_filled`. -/
def fillWrites (cfg : StoredConfig) (f : FillCall) (s : PortfolioState) : List RowWrite :=
  match acceptedPrice f.result with
  | none => []
  | some price =>
      match s.positions.get? f.key with
      | none =>
          if f.result.exchangeOrderId ∈ s.retiredOrderIds then []
          else
            let opened := openedPosition cfg.toPortfolioConfig f price
            .upsert opened ::
              (protectedPosition cfg.toPortfolioConfig f opened).toList.map .upsert
      | some existing =>
          if isClosing existing (inferSide f.result) then
            let q := closeQuote existing f price s
            if q.full existing then [.close existing.id (existing.realizedPnl + q.realized)]
            else [.upsert (reducedPosition existing q)]
          else []

/-- The writes of `update_prices`. -/
def priceWrites (prices : String → Option ℚ) (s : PortfolioState) : List RowWrite :=
  s.positions.entries.filterMap fun e =>
    (prices e.2.symbol.ccxtSymbol).map fun price => .upsert (repriced e.2 price)

/-- An engine and its table. -/
structure StoredPortfolio where
  portfolio : PortfolioState
  table : PositionTable

/-- The engine handles one call after the other, and every write succeeds. -/
def storedMachine (cfg : StoredConfig) : Machine StoredPortfolio PortfolioCall where
  next S
    | .onOrderFilled f =>
        (onOrderFilled cfg.toPortfolioConfig f S.portfolio).bind fun t =>
          ((fillWrites cfg f S.portfolio).foldlM (RowWrite.apply cfg) S.table).map fun T => ⟨t, T⟩
    | .updatePrices prices =>
        ((priceWrites prices S.portfolio).foldlM (RowWrite.apply cfg) S.table).map fun T =>
          ⟨updatePrices prices S.portfolio, T⟩

/-- The positions at given prices. -/
def PortfolioState.priced (price : String → ℚ) (s : PortfolioState) : PortfolioState :=
  updatePrices (fun symbol => some (price symbol)) s

/-- At the given prices the engine that a restart builds is worth what the engine was worth
before, and the entry fees of the open positions, which are not stored. -/
def RestoresValue (cfg : StoredConfig) (gate : Option LiveVerificationState)
    (price : String → ℚ) (S : StoredPortfolio) : Prop :=
  ((restoreFromPersistence cfg gate S.table).priced price).portfolioValue =
    (S.portfolio.priced price).portfolioValue + S.portfolio.entryFees.total id

/-- A position after a restart. -/
def Position.restored (cfg : StoredConfig) (p : Position) : Position :=
  positionFromRow (positionRow cfg p)

/-- What the columns add to the profit of the open positions when they round. -/
def roundingGain (cfg : StoredConfig) (price : String → ℚ) (s : PortfolioState) : ℚ :=
  s.positions.total fun p =>
    let current := price p.symbol.ccxtSymbol
    (repriced (p.restored cfg) current).openProfit - (repriced p current).openProfit

/-! ### The table follows the positions -/

/-- The symbol key of a row. -/
def PositionRow.key (r : PositionRow) : String := r.symbol ++ ":" ++ r.exchange.value

/-- The open rows of the engine are those of the positions that are held. -/
structure InSync (cfg : StoredConfig) (held : String → Option Position) (T : PositionTable) :
    Prop where
  stored : ∀ key p, held key = some p →
    p.symbol.str = key ∧ p.tradingMode = cfg.tradingMode ∧ positionRow cfg p ∈ T.rows
  shown : ∀ r ∈ T.rows, isVisible cfg r = true →
    ∃ p, held r.key = some p ∧ r = positionRow cfg p

section Sync

variable {cfg : StoredConfig} {held : String → Option Position} {T T' : PositionTable}
  {p : Position} {key : String}

theorem key_positionRow (cfg : StoredConfig) (p : Position) :
    (positionRow cfg p).key = p.symbol.str := rfl

theorem isVisible_positionRow (h : p.tradingMode = cfg.tradingMode) :
    isVisible cfg (positionRow cfg p) = true := by
  simp [isVisible, positionRow, h]

theorem isRowOf_positionRow {q : Position} (hsymbol : q.symbol = p.symbol)
    (hmode : q.tradingMode = p.tradingMode) : isRowOf cfg p (positionRow cfg q) = true := by
  simp [isRowOf, positionRow, hsymbol, hmode]

/-- The row that is updated is an open row of the engine under the key of the position. -/
theorem of_isRowOf {r : PositionRow} (hmode : p.tradingMode = cfg.tradingMode)
    (h : isRowOf cfg p r = true) : isVisible cfg r = true ∧ r.key = p.symbol.str := by
  simp only [isRowOf, Bool.and_eq_true, decide_eq_true_eq] at h
  obtain ⟨⟨⟨⟨hsymbol, hexchange⟩, hmode'⟩, hopen⟩, huser⟩ := h
  constructor
  · simp [isVisible, hmode', hmode, hopen, huser]
  · rw [PositionRow.key, hsymbol, hexchange]
    rfl

theorem PositionTable.eq_of_id {r r' : PositionRow} (hr : r ∈ T.rows) (hr' : r' ∈ T.rows)
    (h : r.id = r'.id) : r = r' :=
  List.inj_on_of_nodup_map T.nodup_ids hr hr' h

/-- The row of a position of another key is another row. -/
theorem InSync.id_ne (h : InSync cfg held T) {k : String} {q : Position} {r : PositionRow}
    (hq : held k = some q) (hr : r ∈ T.rows) (hkey : r.key ≠ k) :
    (positionRow cfg q).id ≠ r.id := by
  intro heq
  obtain ⟨hsymbol, -, hmem⟩ := h.stored k q hq
  obtain rfl := PositionTable.eq_of_id hmem hr heq
  exact hkey hsymbol

/-- Updating the row of one key. -/
theorem InSync.update (h : InSync cfg held T) {old : Position} (hold : held key = some old)
    {f : PositionRow → PositionRow} (hf : ∀ r, (f r).id = r.id) {v : Option Position}
    (hsome : ∀ p, v = some p → p.symbol.str = key ∧ p.tradingMode = cfg.tradingMode ∧
      f (positionRow cfg old) = positionRow cfg p)
    (hnone : v = none → isVisible cfg (f (positionRow cfg old)) = false) :
    InSync cfg (Function.update held key v) (T.update old.id f hf) := by
  obtain ⟨hkey, hmode, hmem⟩ := h.stored key old hold
  constructor
  · intro k q hq
    by_cases hk : k = key
    · subst hk
      rw [Function.update_self] at hq
      obtain ⟨hsymbol, hmode', hrow⟩ := hsome q hq
      exact ⟨hsymbol, hmode', List.mem_map.2 ⟨_, hmem, (if_pos rfl).trans hrow⟩⟩
    · rw [Function.update_of_ne hk] at hq
      obtain ⟨hsymbol, hmode', hrow⟩ := h.stored k q hq
      have hother : (positionRow cfg q).id ≠ old.id :=
        h.id_ne hq hmem (by rw [key_positionRow, hkey]; exact Ne.symm hk)
      exact ⟨hsymbol, hmode', List.mem_map.2 ⟨_, hrow, if_neg hother⟩⟩
  · intro r' hr' hvisible
    obtain ⟨r, hr, rfl⟩ := List.mem_map.1 hr'
    split at hvisible
    next hid =>
      obtain rfl : r = positionRow cfg old := PositionTable.eq_of_id hr hmem hid
      cases hv : v with
      | none =>
          rw [hnone hv] at hvisible
          cases hvisible
      | some q =>
          obtain ⟨hsymbol, -, hrow⟩ := hsome q hv
          rw [if_pos hid, hrow, key_positionRow, hsymbol, Function.update_self]
          exact ⟨q, rfl, rfl⟩
    next hid =>
      obtain ⟨q, hq, hrow⟩ := h.shown r hr hvisible
      rw [if_neg hid]
      by_cases hk : r.key = key
      · rw [hk, hold] at hq
        obtain rfl := Option.some.inj hq
        rw [hrow] at hid
        exact absurd rfl hid
      · rw [Function.update_of_ne hk]
        exact ⟨q, hq, hrow⟩

/-- Adding the row of a new key. -/
theorem InSync.insert (h : InSync cfg held T) (hnone : held key = none)
    (hkey : p.symbol.str = key) (hmode : p.tradingMode = cfg.tradingMode)
    (hrows : T'.rows = T.rows ++ [positionRow cfg p]) :
    InSync cfg (Function.update held key (some p)) T' := by
  constructor
  · intro k q hq
    rw [hrows]
    by_cases hk : k = key
    · subst hk
      rw [Function.update_self] at hq
      obtain rfl := Option.some.inj hq
      exact ⟨hkey, hmode, by simp⟩
    · rw [Function.update_of_ne hk] at hq
      obtain ⟨hsymbol, hmode', hrow⟩ := h.stored k q hq
      exact ⟨hsymbol, hmode', List.mem_append_left _ hrow⟩
  · intro r hr hvisible
    rw [hrows, List.mem_append, List.mem_singleton] at hr
    rcases hr with hr | rfl
    · obtain ⟨q, hq, hrow⟩ := h.shown r hr hvisible
      have hk : r.key ≠ key := by
        intro heq
        rw [heq, hnone] at hq
        cases hq
      rw [Function.update_of_ne hk]
      exact ⟨q, hq, hrow⟩
    · rw [key_positionRow, hkey, Function.update_self]
      exact ⟨p, rfl, rfl⟩

/-- The position that is written replaces one with its id, symbol and opening time. -/
structure Replaces (p old : Position) : Prop where
  id : p.id = old.id
  symbol : p.symbol = old.symbol
  tradingMode : p.tradingMode = old.tradingMode
  openedAt : p.openedAt = old.openedAt

/-- The upsert of a position keeps the table in step. -/
theorem InSync.upsert (h : InSync cfg held T) (hkey : p.symbol.str = key)
    (hmode : p.tradingMode = cfg.tradingMode)
    (hold : ∀ old, held key = some old → Replaces p old)
    (hwrite : T.upsertOpen cfg p = some T') :
    InSync cfg (Function.update held key (some p)) T' := by
  unfold PositionTable.upsertOpen at hwrite
  split at hwrite
  next r hfind =>
    obtain rfl := Option.some.inj hwrite
    obtain ⟨hvisible, hrkey⟩ := of_isRowOf hmode (List.find?_some hfind)
    obtain ⟨old, hheld, rfl⟩ := h.shown r (List.mem_of_find?_eq_some hfind) hvisible
    rw [hrkey, hkey] at hheld
    have hreplaces := hold old hheld
    refine h.update hheld _ (fun q hq => ?_) fun hnone => by cases hnone
    obtain rfl := Option.some.inj hq
    refine ⟨hkey, hmode, ?_⟩
    simp [updatedRow, positionRow, hreplaces.id, hreplaces.symbol, hreplaces.tradingMode,
      hreplaces.openedAt]
  next hfind =>
    split at hwrite
    next => cases hwrite
    next hid =>
      obtain rfl := Option.some.inj hwrite
      refine h.insert ?_ hkey hmode rfl
      cases hheld : held key with
      | none => rfl
      | some old =>
          obtain ⟨-, -, hmem⟩ := h.stored key old hheld
          have hreplaces := hold old hheld
          exact absurd (isRowOf_positionRow hreplaces.symbol.symm hreplaces.tradingMode.symm)
            (List.find?_eq_none.1 hfind _ hmem)

/-- The close of a position keeps the table in step. -/
theorem InSync.close (h : InSync cfg held T) {old : Position} (hold : held key = some old)
    (realizedPnl : ℚ) :
    InSync cfg (Function.update held key none) (T.close cfg old.id realizedPnl) := by
  refine h.update hold _ (fun q hq => by cases hq) fun _ => ?_
  simp [isVisible]

/-! ### The calls keep the table in step -/

variable {s t : PortfolioState} {f : FillCall}

/-- The hook leaves what identifies a row. -/
theorem replaces_of_protectedPosition {q : Position} {cfg : PortfolioConfig}
    (h : protectedPosition cfg f p = some q) : Replaces q p := by
  rw [setsProtectionOnly_hook cfg p f.result.rawResponse q h]
  exact ⟨rfl, rfl, rfl, rfl⟩

/-- An opening fill stores its position, and once more with its protection. -/
theorem InSync.openPosition (h : InSync cfg s.positions.get? T) {price : ℚ}
    (hnone : s.positions.get? f.key = none)
    (hwrites : (RowWrite.upsert (openedPosition cfg.toPortfolioConfig f price) ::
      (protectedPosition cfg.toPortfolioConfig f
        (openedPosition cfg.toPortfolioConfig f price)).toList.map .upsert).foldlM
          (RowWrite.apply cfg) T = some T') :
    InSync cfg (openPosition cfg.toPortfolioConfig f price s).positions.get? T' := by
  set opened := openedPosition cfg.toPortfolioConfig f price with hopened
  rw [List.foldlM_cons] at hwrites
  obtain ⟨T₁, hfirst, hrest⟩ := Option.bind_eq_some_iff.1 hwrites
  have hstored : InSync cfg (s.positions.set f.key opened).get? T₁ := by
    rw [Dict.get?_set_eq_update]
    refine h.upsert rfl rfl (fun old hold => ?_) hfirst
    rw [hnone] at hold
    cases hold
  unfold Sgr.openPosition protect
  cases hprotected : protectedPosition cfg.toPortfolioConfig f opened with
  | none =>
      rw [hprotected] at hrest
      obtain rfl := Option.some.inj hrest
      exact hstored
  | some q =>
      rw [hprotected] at hrest
      obtain ⟨T₂, hsecond, hend⟩ := Option.bind_eq_some_iff.1 hrest
      obtain rfl := Option.some.inj hend
      have hreplaces := replaces_of_protectedPosition hprotected
      change InSync cfg ((s.positions.set f.key opened).set f.key q).get? T₂
      rw [Dict.get?_set_eq_update]
      refine hstored.upsert ?_ (hreplaces.tradingMode) (fun old hold => ?_) hsecond
      · rw [hreplaces.symbol]
        rfl
      · rw [Dict.get?_set_self] at hold
        obtain rfl := Option.some.inj hold
        exact hreplaces

/-- A closing fill closes the row of its position or stores what is left. -/
theorem InSync.bookClose (h : InSync cfg s.positions.get? T) {existing : Position}
    (hget : s.positions.get? f.key = some existing) {q : CloseQuote} {u : PortfolioState}
    (hpositions : u.positions = s.positions) (hbook : bookClose existing q f u = some t)
    (hwrites : (if q.full existing then
        [RowWrite.close existing.id (existing.realizedPnl + q.realized)]
      else [.upsert (reducedPosition existing q)]).foldlM (RowWrite.apply cfg) T = some T') :
    InSync cfg t.positions.get? T' := by
  unfold Sgr.bookClose at hbook
  split at hbook
  next hfull =>
    rw [if_pos hfull] at hwrites
    obtain rfl := Option.some.inj hwrites
    rw [hpositions, hget] at hbook
    obtain rfl := Option.some.inj hbook
    rw [Dict.get?_erase_eq_update]
    exact h.close hget _
  next hfull =>
    rw [if_neg hfull] at hwrites
    obtain ⟨T₁, hupsert, hend⟩ := Option.bind_eq_some_iff.1 hwrites
    obtain rfl := Option.some.inj hend
    obtain rfl := Option.some.inj hbook
    obtain ⟨hkey, hmode, -⟩ := h.stored f.key existing hget
    rw [hpositions, Dict.get?_set_eq_update]
    refine h.upsert hkey hmode (fun old hold => ?_) hupsert
    rw [hget] at hold
    obtain rfl := Option.some.inj hold
    exact ⟨rfl, rfl, rfl, rfl⟩

theorem InSync.onOrderFilled (h : InSync cfg s.positions.get? T)
    (hfill : onOrderFilled cfg.toPortfolioConfig f s = some t)
    (hwrites : (fillWrites cfg f s).foldlM (RowWrite.apply cfg) T = some T') :
    InSync cfg t.positions.get? T' := by
  unfold Sgr.onOrderFilled at hfill
  unfold fillWrites at hwrites
  split at hfill
  next hprice =>
    rw [hprice] at hwrites
    obtain rfl := Option.some.inj hfill
    obtain rfl := Option.some.inj hwrites
    exact h
  next price hprice =>
    rw [hprice] at hwrites
    dsimp only at hwrites
    split at hfill
    next hnone =>
      rw [hnone] at hwrites
      dsimp only at hwrites
      split at hfill
      next hretired =>
        rw [if_pos hretired] at hwrites
        obtain rfl := Option.some.inj hfill
        obtain rfl := Option.some.inj hwrites
        exact h
      next hretired =>
        rw [if_neg hretired] at hwrites
        obtain rfl := Option.some.inj hfill
        rw [PortfolioState.updatePeak_positions]
        exact h.openPosition hnone hwrites
    next existing hget =>
      rw [hget] at hwrites
      dsimp only at hwrites
      obtain ⟨u, hupdate, rfl⟩ := Option.map_eq_some_iff.1 hfill
      rw [PortfolioState.updatePeak_positions]
      unfold updatePosition at hupdate
      split at hupdate
      next hclosing =>
        rw [if_pos hclosing] at hwrites
        obtain ⟨v, hbook, rfl⟩ := Option.map_eq_some_iff.1 hupdate
        have hsame : (recordTrade cfg.toPortfolioConfig existing (closeQuote existing f price s)
          f s).positions = s.positions := rfl
        have hsync : InSync cfg v.positions.get? T' := h.bookClose hget hsame hbook hwrites
        split
        · exact hsync
        · exact hsync
      next hclosing =>
        rw [if_neg hclosing] at hwrites
        obtain rfl := Option.some.inj hupdate
        obtain rfl := Option.some.inj hwrites
        exact h

/-- The loop of `update_prices` writes what it stores. -/
theorem InSync.updatePrice {prices : String → Option ℚ} {es : List (String × Position)}
    (hnodup : (es.map Prod.fst).Nodup) {d : Dict String Position}
    (hes : ∀ e ∈ es, d.get? e.1 = some e.2) (h : InSync cfg d.get? T)
    (hwrites : (es.filterMap fun e => (prices e.2.symbol.ccxtSymbol).map fun price =>
      RowWrite.upsert (repriced e.2 price)).foldlM (RowWrite.apply cfg) T = some T') :
    InSync cfg (es.foldl (updatePrice prices) d).get? T' := by
  induction es generalizing d T with
  | nil =>
      obtain rfl := Option.some.inj hwrites
      exact h
  | cons e es ih =>
      rw [List.map_cons, List.nodup_cons] at hnodup
      have hget := hes e List.mem_cons_self
      have hrest : ∀ e' ∈ es, e'.1 ≠ e.1 := by
        rintro e' he' heq
        exact hnodup.1 (heq ▸ List.mem_map_of_mem he')
      rw [List.foldl_cons, Sgr.updatePrice]
      cases hprice : prices e.2.symbol.ccxtSymbol with
      | none =>
          rw [List.filterMap_cons_none (by rw [hprice]; rfl)] at hwrites
          exact ih hnodup.2 (fun e' he' => hes e' (List.mem_cons_of_mem e he')) h hwrites
      | some price =>
          rw [List.filterMap_cons_some (by rw [hprice]; rfl), List.foldlM_cons] at hwrites
          obtain ⟨T₁, hupsert, hwrites⟩ := Option.bind_eq_some_iff.1 hwrites
          obtain ⟨hkey, hmode, -⟩ := h.stored e.1 e.2 hget
          refine ih hnodup.2 (fun e' he' => ?_) ?_ hwrites
          · rw [Dict.get?_set_of_ne _ (hrest e' he')]
            exact hes e' (List.mem_cons_of_mem e he')
          · rw [Dict.get?_set_eq_update]
            refine h.upsert hkey hmode (fun old hold => ?_) hupsert
            rw [hget] at hold
            obtain rfl := Option.some.inj hold
            exact ⟨rfl, rfl, rfl, rfl⟩

theorem InSync.updatePrices (h : InSync cfg s.positions.get? T) {prices : String → Option ℚ}
    (hwrites : (priceWrites prices s).foldlM (RowWrite.apply cfg) T = some T') :
    InSync cfg (updatePrices prices s).positions.get? T' := by
  rw [Sgr.updatePrices, PortfolioState.updatePeak_positions]
  exact InSync.updatePrice s.positions.nodup_keys
    (fun e he => (s.positions.mem_entries_iff e.1 e.2).1 he) h hwrites

/-- Every run keeps the table in step. -/
theorem inSync_of_run {S S' : StoredPortfolio} {calls : List PortfolioCall}
    (h : InSync cfg S.portfolio.positions.get? S.table)
    (hrun : (storedMachine cfg).run S calls = some S') :
    InSync cfg S'.portfolio.positions.get? S'.table := by
  refine (storedMachine cfg).run_invariant
    (fun S => InSync cfg S.portfolio.positions.get? S.table) (fun S call S' h hnext => ?_) h hrun
  cases call with
  | onOrderFilled f =>
      obtain ⟨t, hfill, hwrites⟩ := Option.bind_eq_some_iff.1 hnext
      obtain ⟨T, hT, rfl⟩ := Option.map_eq_some_iff.1 hwrites
      exact h.onOrderFilled hfill hT
  | updatePrices prices =>
      obtain ⟨T, hT, rfl⟩ := Option.map_eq_some_iff.1 hnext
      exact h.updatePrices hT

/-- A table without open positions of the engine is in step with a fresh engine. -/
theorem inSync_init (cash : ℚ) (gate : Option LiveVerificationState)
    (h : getOpenPositions cfg T = []) :
    InSync cfg (PortfolioState.init cash gate).positions.get? T where
  stored _ _ hp := by cases hp
  shown r hr hvisible := by
    have hmem : r ∈ getOpenPositions cfg T :=
      (List.mem_insertionSort _).2 (List.mem_filter.2 ⟨hr, hvisible⟩)
    rw [h] at hmem
    cases hmem

/-! ### What a restart builds -/

/-- Taking over positions subtracts what they were entered for. -/
theorem foldl_takeOver (ps : List Position) (s : PortfolioState) :
    (ps.foldl PortfolioState.takeOver s).positions =
        ps.foldl (fun d p => d.set p.symbol.str p) s.positions ∧
      (ps.foldl PortfolioState.takeOver s).cash = s.cash - (ps.map Position.bookValue).sum := by
  induction ps generalizing s with
  | nil => simp
  | cons p ps ih =>
      obtain ⟨hpositions, hcash⟩ := ih (s.takeOver p)
      rw [List.foldl_cons, List.foldl_cons, hpositions, hcash, List.map_cons, List.sum_cons]
      refine ⟨rfl, ?_⟩
      unfold PortfolioState.takeOver Position.bookValue Position.valueAt Position.sideFactor
      dsimp only
      split <;> ring

theorem foldl_restorePosition_eq (rows : List PositionRow) (s : PortfolioState) :
    rows.foldl restorePosition s = (rows.map positionFromRow).foldl PortfolioState.takeOver s := by
  rw [List.foldl_map]
  rfl

/-- The loop of the restoration subtracts what the positions were entered for. -/
theorem foldl_restorePosition (rows : List PositionRow) (s : PortfolioState) :
    (rows.foldl restorePosition s).positions = rows.foldl (fun d r =>
        d.set (positionFromRow r).symbol.str (positionFromRow r)) s.positions ∧
      (rows.foldl restorePosition s).cash =
        s.cash - (rows.map fun r => (positionFromRow r).bookValue).sum := by
  obtain ⟨hpositions, hcash⟩ := foldl_takeOver (rows.map positionFromRow) s
  rw [← foldl_restorePosition_eq, List.foldl_map] at hpositions
  rw [← foldl_restorePosition_eq, List.map_map] at hcash
  exact ⟨hpositions, hcash⟩

/-- A restored symbol has the text of its row. -/
theorem ccxtSymbol_symbolOfRow {r : PositionRow} (h : '/' ∈ r.symbol.toList) :
    (symbolOfRow r).ccxtSymbol = r.symbol := by
  apply String.toList_inj.1
  rw [Symbol.ccxtSymbol, String.toList_append, String.toList_append]
  simp only [symbolOfRow, String.toList_ofList]
  rw [List.append_assoc]
  exact splitFirst_fst_append h

theorem symbol_restored (cfg : StoredConfig) (p : Position) :
    (p.restored cfg).symbol.ccxtSymbol = p.symbol.ccxtSymbol ∧
      (p.restored cfg).symbol.str = p.symbol.str := by
  have hslash : '/' ∈ (positionRow cfg p).symbol.toList := by
    have htext : "/".toList = ['/'] := by decide
    simp [positionRow, Symbol.ccxtSymbol, String.toList_append, htext]
  have hccxt : (p.restored cfg).symbol.ccxtSymbol = p.symbol.ccxtSymbol :=
    ccxtSymbol_symbolOfRow hslash
  refine ⟨hccxt, ?_⟩
  change (p.restored cfg).symbol.ccxtSymbol ++ ":" ++ _ = p.symbol.ccxtSymbol ++ ":" ++ _
  rw [hccxt]
  rfl

/-- The open rows have different keys. -/
theorem InSync.nodup_keys (h : InSync cfg held T) :
    ((getOpenPositions cfg T).map fun r =>
      ((positionFromRow r).symbol.str, positionFromRow r)).map Prod.fst |>.Nodup := by
  have hmem : ∀ r ∈ getOpenPositions cfg T, ∃ p, held r.key = some p ∧ r = positionRow cfg p := by
    intro r hr
    obtain ⟨hr, hvisible⟩ := List.mem_filter.1 ((List.mem_insertionSort _).1 hr)
    exact h.shown r hr hvisible
  have hnodup : (getOpenPositions cfg T).Nodup :=
    (List.perm_insertionSort _ _).nodup_iff.2 (T.nodup_ids.of_map.filter _)
  rw [List.map_map]
  refine hnodup.map_on fun r hr r' hr' heq => ?_
  obtain ⟨p, hp, rfl⟩ := hmem r hr
  obtain ⟨p', hp', rfl⟩ := hmem r' hr'
  have hkey : p.symbol.str = p'.symbol.str := by
    have heq : (p.restored cfg).symbol.str = (p'.restored cfg).symbol.str := heq
    rwa [(symbol_restored cfg p).2, (symbol_restored cfg p').2] at heq
  rw [key_positionRow, hkey, ← key_positionRow cfg p', hp'] at hp
  rw [Option.some.inj hp]

theorem InSync.entries_restore (h : InSync cfg held T) (gate : Option LiveVerificationState) :
    (restoreFromPersistence cfg gate T).positions.entries = (getOpenPositions cfg T).map fun r =>
      ((positionFromRow r).symbol.str, positionFromRow r) := by
  rw [restoreFromPersistence, PortfolioState.updatePeak_positions,
    (foldl_restorePosition _ _).1]
  have hentries := Dict.entries_foldl_set (d := (Dict.empty : Dict String Position)) h.nodup_keys
  rw [List.foldl_map] at hentries
  exact hentries

/-- A restart restores the positions that are held, as the columns have kept them. -/
theorem InSync.get?_restore (h : InSync cfg held T) (gate : Option LiveVerificationState)
    (key : String) :
    (restoreFromPersistence cfg gate T).positions.get? key =
      (held key).map (Position.restored cfg) := by
  refine Option.ext fun q => ?_
  rw [← Dict.mem_entries_iff, h.entries_restore, List.mem_map, Option.map_eq_some_iff]
  constructor
  · rintro ⟨r, hr, heq⟩
    obtain ⟨rfl, rfl⟩ := Prod.mk.inj heq
    obtain ⟨hr, hvisible⟩ := List.mem_filter.1 ((List.mem_insertionSort _).1 hr)
    obtain ⟨p, hp, rfl⟩ := h.shown r hr hvisible
    rw [key_positionRow] at hp
    have hkey : (positionFromRow (positionRow cfg p)).symbol.str = p.symbol.str :=
      (symbol_restored cfg p).2
    rw [hkey]
    exact ⟨p, hp, rfl⟩
  · rintro ⟨p, hp, rfl⟩
    obtain ⟨hkey, hmode, hmem⟩ := h.stored key p hp
    refine ⟨positionRow cfg p, ?_, Prod.ext ?_ rfl⟩
    · exact (List.mem_insertionSort _).2
        (List.mem_filter.2 ⟨hmem, isVisible_positionRow hmode⟩)
    · rw [← hkey]
      exact (symbol_restored cfg p).2

/-- A restart subtracts from the initial cash what the positions were entered for. -/
theorem InSync.cash_restore (h : InSync cfg held T) (gate : Option LiveVerificationState) :
    (restoreFromPersistence cfg gate T).cash = cfg.initialCash -
      (restoreFromPersistence cfg gate T).positions.total Position.bookValue := by
  rw [Dict.total_eq_sum, h.entries_restore, List.map_map, restoreFromPersistence,
    PortfolioState.updatePeak_cash, (foldl_restorePosition _ _).2]
  rfl

/-! ### The value of a restarted engine -/

/-- The value at given prices. -/
theorem portfolioValue_priced (price : String → ℚ) (s : PortfolioState) :
    (s.priced price).portfolioValue = s.cash + s.positions.total Position.bookValue +
      s.positions.total fun p => (repriced p (price p.symbol.ccxtSymbol)).openProfit := by
  have hget : ∀ key, (s.priced price).positions.get? key = (s.positions.get? key).map fun p =>
      repriced p (price p.symbol.ccxtSymbol) :=
    get?_updatePrices (fun symbol => some (price symbol)) s
  have hcash : (s.priced price).cash = s.cash := by
    unfold PortfolioState.priced updatePrices
    rw [PortfolioState.updatePeak_cash]
  rw [PortfolioState.portfolioValue_eq, total_openProfit, Dict.total_eq_of_get? hget,
    Dict.total_eq_of_get? hget, hcash, ← add_assoc]
  rfl

/-- The engine of a run keeps its balance. -/
theorem conserved_of_run {S S' : StoredPortfolio} {calls : List PortfolioCall}
    (h : Conserved cfg.initialCash S.portfolio)
    (hrun : (storedMachine cfg).run S calls = some S') :
    Conserved cfg.initialCash S'.portfolio := by
  refine (storedMachine cfg).run_invariant (fun S => Conserved cfg.initialCash S.portfolio)
    (fun S call S' h hnext => ?_) h hrun
  cases call with
  | onOrderFilled f =>
      obtain ⟨t, hfill, hwrites⟩ := Option.bind_eq_some_iff.1 hnext
      obtain ⟨T, -, rfl⟩ := Option.map_eq_some_iff.1 hwrites
      obtain ⟨u, hu, hconserved⟩ := h.onOrderFilledWith
        (setsProtectionOnly_hook cfg.toPortfolioConfig) cfg.toPortfolioConfig f
      rw [onOrderFilledWith_hook, hfill] at hu
      obtain rfl := Option.some.inj hu
      exact hconserved
  | updatePrices prices =>
      obtain ⟨T, -, rfl⟩ := Option.map_eq_some_iff.1 hnext
      exact h.updatePrices prices

/-- What the open positions gain from the rounding is the difference of their profits. -/
theorem total_restored (price : String → ℚ) (s : PortfolioState) :
    (s.positions.total fun p =>
        (repriced (p.restored cfg) (price (p.restored cfg).symbol.ccxtSymbol)).openProfit) =
      roundingGain cfg price s +
        s.positions.total fun p => (repriced p (price p.symbol.ccxtSymbol)).openProfit := by
  rw [roundingGain, Dict.total, Dict.total, Dict.total, ← List.sum_map_add]
  congr 1
  refine List.map_congr_left fun p _ => ?_
  rw [(symbol_restored cfg p).1]
  dsimp only
  ring

/-- After every run of calls, each with its writes, a restart gives the value back exactly when
the closed trades have realized nothing but what the columns round. -/
theorem restoresValue_iff {gate gate' : Option LiveVerificationState}
    (hfresh : getOpenPositions cfg T = []) {calls : List PortfolioCall} {S : StoredPortfolio}
    (hrun : (storedMachine cfg).run ⟨.init cfg.initialCash gate, T⟩ calls = some S)
    (price : String → ℚ) :
    RestoresValue cfg gate' price S ↔
      S.portfolio.realized = roundingGain cfg price S.portfolio := by
  have hsync := inSync_of_run (inSync_init cfg.initialCash gate hfresh) hrun
  have hbalance := (conserved_of_run (conserved_init cfg.initialCash gate) hrun).balance
  have hrestored : (restoreFromPersistence cfg gate' S.table).positions.total (fun p =>
      (repriced p (price p.symbol.ccxtSymbol)).openProfit) =
        roundingGain cfg price S.portfolio + S.portfolio.positions.total fun p =>
          (repriced p (price p.symbol.ccxtSymbol)).openProfit := by
    rw [Dict.total_eq_of_get? (hsync.get?_restore gate')]
    exact total_restored price S.portfolio
  rw [RestoresValue, portfolioValue_priced, portfolioValue_priced, hrestored,
    hsync.cash_restore gate']
  constructor
  · intro h
    linarith
  · intro h
    linarith

/-- Columns that keep every number of the open positions add nothing. -/
theorem roundingGain_eq_zero {s : PortfolioState} (price : String → ℚ)
    (hexact : ∀ key p, s.positions.get? key = some p →
      cfg.column 8 p.quantity = p.quantity ∧ cfg.column 8 p.entryPrice = p.entryPrice) :
    roundingGain cfg price s = 0 := by
  refine List.sum_eq_zero fun x hx => ?_
  obtain ⟨p, hp, rfl⟩ := List.mem_map.1 hx
  obtain ⟨key, hkey⟩ := (s.positions.mem_values_iff p).1 hp
  obtain ⟨hquantity, hentry⟩ := hexact key p hkey
  simp only [Position.restored, positionFromRow, positionRow, repriced, Position.openProfit,
    Position.sideFactor, hquantity, hentry]
  exact sub_self _

end Sync

/-- The engine of the examples; its columns keep every number. -/
def StoredConfig.exact : StoredConfig where
  tradingMode := .paper
  initialCash := 1000
  column := fun _ x => x

/-- The table before the first trade. -/
def PositionTable.empty : PositionTable where
  rows := []
  nodup_ids := List.nodup_nil

/-- A short position is opened, reduced and left open. -/
theorem restoresValue_iff_short :
    ∃ S, (storedMachine .exact).run ⟨.init 1000 none, .empty⟩
        [.onOrderFilled (.btc 1 .sell 2 100), .updatePrices fun _ => some 90,
          .onOrderFilled (.btc 2 .buy 1 100)] = some S ∧
      (RestoresValue .exact none (fun _ => 95) S ↔
        S.portfolio.realized = roundingGain .exact (fun _ => 95) S.portfolio) := by
  have hend : ((storedMachine .exact).run ⟨.init 1000 none, .empty⟩
      [.onOrderFilled (.btc 1 .sell 2 100), .updatePrices fun _ => some 90,
        .onOrderFilled (.btc 2 .buy 1 100)]).isSome = true := by decide +kernel
  obtain ⟨S, hS⟩ := Option.isSome_iff_exists.1 hend
  exact ⟨S, hS, restoresValue_iff rfl hS fun _ => 95⟩

/-- The profit of a closed position is lost. -/
theorem not_restoresValue :
    ¬ ∀ (cfg : StoredConfig) (calls : List PortfolioCall) (S : StoredPortfolio)
      (price : String → ℚ),
      (storedMachine cfg).run ⟨.init cfg.initialCash none, .empty⟩ calls = some S →
        RestoresValue cfg none price S := by
  intro h
  have hend : ((storedMachine .exact).run ⟨.init 1000 none, .empty⟩
      [.onOrderFilled (.btc 1 .buy 1 100), .onOrderFilled (.btc 2 .sell 1 110)]).any (fun S =>
        decide (((restoreFromPersistence .exact none S.table).priced fun _ => 110).portfolioValue ≠
          (S.portfolio.priced fun _ => 110).portfolioValue + S.portfolio.entryFees.total id)) =
        true := by decide +kernel
  obtain ⟨S, hS, hlost⟩ := (Option.any_eq_true _ _).1 hend
  exact of_decide_eq_true hlost (h .exact _ S (fun _ => 110) hS)

end Sgr
