import Mathlib.Data.List.Find
import Sgr.Core.SymbolText
import Sgr.Portfolio.Restore

/-!
# Positions and the texts of their rows

`_to_dict` of `PositionRepository` gives a row out with the texts of its enumerations, and
`_position_from_row` of the portfolio engine builds a position from them. A position comes
back as it was written only when it is one of the spot market and the columns keep its
numbers.
-/

open Collection

namespace Sgr

/-! ### The texts of the enumerations -/

/-- `PositionSide.value`. -/
def PositionSide.value : PositionSide → String
  | .long => "long"
  | .short => "short"
  | .flat => "flat"

/-- `MarketRegime.value`. -/
def MarketRegime.value : MarketRegime → String
  | .trendingUp => "trending_up"
  | .trendingDown => "trending_down"
  | .ranging => "ranging"
  | .breakout => "breakout"
  | .highVolatility => "high_volatility"
  | .lowVolatility => "low_volatility"
  | .crisis => "crisis"
  | .unknown => "unknown"

/-- The constructor of a `StrEnum`: the member with a value. -/
def ofValue? {α : Type*} (members : List α) (value : α → String) (text : String) : Option α :=
  members.find? fun a => value a = text

/-- `ExchangeID(text)`. -/
def ExchangeID.ofValue? : String → Option ExchangeID :=
  Sgr.ofValue? [.binance, .pionex, .bybit, .okx, .kraken] ExchangeID.value

/-- `PositionSide(text)`. -/
def PositionSide.ofValue? : String → Option PositionSide :=
  Sgr.ofValue? [.long, .short, .flat] PositionSide.value

/-- `TradingMode(text)`. -/
def TradingMode.ofValue? : String → Option TradingMode :=
  Sgr.ofValue? [.paper, .live] TradingMode.value

/-- `MarketRegime(text)`. -/
def MarketRegime.ofValue? : String → Option MarketRegime :=
  Sgr.ofValue?
    [.trendingUp, .trendingDown, .ranging, .breakout, .highVolatility, .lowVolatility, .crisis,
      .unknown]
    MarketRegime.value

@[simp] theorem ExchangeID.ofValue?_value (e : ExchangeID) :
    ExchangeID.ofValue? e.value = some e := by
  cases e <;> decide

@[simp] theorem PositionSide.ofValue?_value (s : PositionSide) :
    PositionSide.ofValue? s.value = some s := by
  cases s <;> decide

@[simp] theorem TradingMode.ofValue?_value (m : TradingMode) :
    TradingMode.ofValue? m.value = some m := by
  cases m <;> decide

@[simp] theorem MarketRegime.ofValue?_value (r : MarketRegime) :
    MarketRegime.ofValue? r.value = some r := by
  cases r <;> decide

/-! ### Rows as dictionaries -/

/-- What `_to_dict` gives out of a row, as far as `_position_from_row` reads it. -/
structure PositionDict where
  id : UUID
  symbol : String
  exchange : String
  side : String
  quantity : ℚ
  entryPrice : ℚ
  currentPrice : ℚ
  leverage : ℚ := 1
  unrealizedPnl : ℚ := 0
  realizedPnl : ℚ := 0
  openedAt : Timestamp := 0
  strategyName : String
  tradingMode : String
  stopLossPrice : Option ℚ := none
  takeProfitPrice : Option ℚ := none
  maxHoldingUntil : Option Timestamp := none
  slOrderId : Option String := none
  tpOrderId : Option String := none
  entryRegime : Option String := none
  deriving DecidableEq

/-- `_to_dict`. -/
def PositionRow.toDict (r : PositionRow) : PositionDict where
  id := r.id
  symbol := r.symbol
  exchange := r.exchange.value
  side := r.side.value
  quantity := r.quantity
  entryPrice := r.entryPrice
  currentPrice := r.currentPrice
  leverage := r.leverage
  unrealizedPnl := r.unrealizedPnl
  realizedPnl := r.realizedPnl
  openedAt := r.openedAt
  strategyName := r.strategyName
  tradingMode := r.tradingMode.value
  stopLossPrice := r.stopLossPrice
  takeProfitPrice := r.takeProfitPrice
  maxHoldingUntil := r.maxHoldingUntil
  slOrderId := r.slOrderId
  tpOrderId := r.tpOrderId
  entryRegime := r.entryRegime.map MarketRegime.value

/-- The regime of a row; an empty text counts as none, and another unknown text raises. -/
def entryRegimeOfText : Option String → Option (Option MarketRegime)
  | none => some none
  | some text => if text = "" then some none else (MarketRegime.ofValue? text).map some

/-- `_position_from_row`; `none` is an exception. -/
def positionOfDict (upper : UpperCase) (d : PositionDict) : Option Position :=
  (ExchangeID.ofValue? d.exchange).bind fun exchange =>
    (entryRegimeOfText d.entryRegime).bind fun entryRegime =>
      (PositionSide.ofValue? d.side).bind fun side =>
        (TradingMode.ofValue? d.tradingMode).map fun tradingMode =>
          { id := d.id
            symbol := symbolOfText upper d.symbol exchange
            side := side
            quantity := d.quantity
            entryPrice := d.entryPrice
            currentPrice := d.currentPrice
            leverage := d.leverage
            unrealizedPnl := d.unrealizedPnl
            realizedPnl := d.realizedPnl
            openedAt := d.openedAt
            strategyName := d.strategyName
            tradingMode := tradingMode
            stopLossPrice := d.stopLossPrice
            takeProfitPrice := d.takeProfitPrice
            maxHoldingUntil := d.maxHoldingUntil
            slOrderId := d.slOrderId
            tpOrderId := d.tpOrderId
            entryRegime := entryRegime }

theorem entryRegimeOfText_value (regime : Option MarketRegime) :
    entryRegimeOfText (regime.map MarketRegime.value) = some regime := by
  cases regime with
  | none => rfl
  | some r => cases r <;> decide

/-- A row can always be read; its position is that of the typed row but for the symbol. -/
theorem positionOfDict_toDict (upper : UpperCase) (r : PositionRow) :
    positionOfDict upper r.toDict =
      some { positionFromRow r with symbol := symbolOfText upper r.symbol r.exchange } := by
  simp [positionOfDict, PositionRow.toDict, entryRegimeOfText_value, positionFromRow]

/-! ### Writing a position and reading it back -/

/-- The decimals of a position, with the places of their columns. -/
def Position.decimals (p : Position) : List (ℕ × ℚ) :=
  [(8, p.quantity), (8, p.entryPrice), (8, p.currentPrice), (2, p.leverage),
    (8, p.unrealizedPnl), (8, p.realizedPnl)] ++
  (p.stopLossPrice.toList ++ p.takeProfitPrice.toList).map fun x => (8, x)

/-- A number below this bound fits its column, `Numeric(28, 8)` or `Numeric(10, 2)`. -/
def numericBound (places : ℕ) : ℚ := if places = 8 then 10 ^ 20 else 10 ^ 8

/-- The database takes the values of the row. The texts of the enumerations always fit. -/
def Position.fits (cfg : StoredConfig) (p : Position) : Bool :=
  p.decimals.all (fun x => |cfg.column x.1 x.2| < numericBound x.1) &&
    p.symbol.ccxtSymbol.length ≤ 20 && p.strategyName.length ≤ 100 &&
    p.slOrderId.all (fun id => id.length ≤ 64) && p.tpOrderId.all (fun id => id.length ≤ 64)

/-- `_persist_position_upsert`; `none` when the database rejects the write. -/
def persistUpsert (cfg : StoredConfig) (p : Position) (T : PositionTable) :
    Option PositionTable :=
  if p.fits cfg then T.upsertOpen cfg p else none

/-- The position that is read from the open row of a position. -/
def readBack (cfg : StoredConfig) (upper : UpperCase) (p : Position) (T : PositionTable) :
    Option Position :=
  (T.rows.find? (isRowOf cfg p)).bind fun r => positionOfDict upper r.toDict

/-- The position is written and comes back as it was. -/
def RoundTrips (cfg : StoredConfig) (upper : UpperCase) (T : PositionTable) (p : Position) :
    Prop :=
  ∃ T', persistUpsert cfg p T = some T' ∧ readBack cfg upper p T' = some p

/-- The row of the position can be written: the open row that is there has its id and its
opening time, or there is none and its id is new. -/
def OwnsRow (cfg : StoredConfig) (T : PositionTable) (p : Position) : Prop :=
  match T.rows.find? (isRowOf cfg p) with
  | some r => r.id = p.id ∧ r.openedAt = p.openedAt
  | none => p.id ∉ T.rows.map PositionRow.id

/-- A position that comes back as it was. -/
structure IsStorable (cfg : StoredConfig) (upper : UpperCase) (T : PositionTable) (p : Position) :
    Prop where
  spot : p.symbol.assetClass = .spot
  base : '/' ∉ p.symbol.base.toList
  isUpper : p.symbol.IsUpper upper
  decimals : ∀ x ∈ p.decimals, cfg.column x.1 x.2 = x.2
  fits : p.fits cfg = true
  row : OwnsRow cfg T p

section RoundTrip

variable {cfg : StoredConfig} {upper : UpperCase} {T T' : PositionTable} {p : Position}
  {r : PositionRow}

/-- What a row with the values of a position is read as. -/
theorem positionOfDict_updatedRow (hrow : isRowOf cfg p r = true) :
    positionOfDict upper (updatedRow cfg p r).toDict = some p ↔
      (r.id = p.id ∧ r.openedAt = p.openedAt) ∧
        symbolOfText upper p.symbol.ccxtSymbol p.symbol.exchange = p.symbol ∧
        ∀ x ∈ p.decimals, cfg.column x.1 x.2 = x.2 := by
  simp only [isRowOf, Bool.and_eq_true, decide_eq_true_eq] at hrow
  obtain ⟨⟨⟨⟨hsymbol, hexchange⟩, hmode⟩, -⟩, -⟩ := hrow
  have hoption : ∀ x : Option ℚ, x.map (cfg.column 8) = x ↔ ∀ y ∈ x, cfg.column 8 y = y := by
    intro x
    cases x <;> simp
  rw [positionOfDict_toDict, Option.some.injEq]
  have hext : ∀ q : Position, q = p ↔ q.id = p.id ∧ q.openedAt = p.openedAt ∧
      q.symbol = p.symbol ∧ (q.quantity = p.quantity ∧ q.entryPrice = p.entryPrice ∧
      q.currentPrice = p.currentPrice ∧ q.leverage = p.leverage ∧
      q.unrealizedPnl = p.unrealizedPnl ∧ q.realizedPnl = p.realizedPnl ∧
      q.stopLossPrice = p.stopLossPrice ∧ q.takeProfitPrice = p.takeProfitPrice) ∧
      q.side = p.side ∧ q.strategyName = p.strategyName ∧ q.tradingMode = p.tradingMode ∧
      q.maxHoldingUntil = p.maxHoldingUntil ∧ q.slOrderId = p.slOrderId ∧
      q.tpOrderId = p.tpOrderId ∧ q.entryRegime = p.entryRegime := by
    intro q
    cases q
    cases p
    simp only [Position.mk.injEq]
    tauto
  rw [hext]
  simp [positionFromRow, updatedRow, positionRow, Position.decimals, hsymbol, hexchange, hmode,
    hoption, or_imp, forall_and]
  tauto

/-- The open row after an update. -/
theorem find?_update (hrow : T.rows.find? (isRowOf cfg p) = some r) :
    (T.update r.id (updatedRow cfg p) fun _ => rfl).rows.find? (isRowOf cfg p) =
      some (updatedRow cfg p r) := by
  have hr := List.mem_of_find?_eq_some hrow
  have hmatches := List.find?_some hrow
  have hsame : ∀ x ∈ T.rows, isRowOf cfg p (if x.id = r.id then updatedRow cfg p x else x) =
      isRowOf cfg p x := by
    intro x hx
    split
    next hid =>
      obtain rfl := PositionTable.eq_of_id hx hr hid
      simp only [isRowOf, Bool.and_eq_true, decide_eq_true_eq] at hmatches
      simp [isRowOf, updatedRow, positionRow, hmatches]
    · rfl
  have hfind : T.rows.find? (isRowOf cfg p ∘ fun x =>
      if x.id = r.id then updatedRow cfg p x else x) = some r := by
    rw [← hrow]
    exact List.find?_congr hsame
  have hmap : (T.update r.id (updatedRow cfg p) fun _ => rfl).rows =
      T.rows.map fun x => if x.id = r.id then updatedRow cfg p x else x := rfl
  rw [hmap, List.find?_map, hfind, Option.map_some, if_pos rfl]

/-- The open row after an insertion. -/
theorem find?_insert (hnone : T.rows.find? (isRowOf cfg p) = none) :
    (T.rows ++ [positionRow cfg p]).find? (isRowOf cfg p) = some (positionRow cfg p) := by
  rw [List.find?_append, hnone, Option.none_or, List.find?_cons_of_pos]
  exact isRowOf_positionRow rfl rfl

theorem updatedRow_positionRow (cfg : StoredConfig) (p : Position) :
    updatedRow cfg p (positionRow cfg p) = positionRow cfg p := rfl

/-- A position comes back as it was written exactly when it is storable. -/
theorem roundTrips_iff (cfg : StoredConfig) (upper : UpperCase) (T : PositionTable)
    (p : Position) : RoundTrips cfg upper T p ↔ IsStorable cfg upper T p := by
  have hstorable : IsStorable cfg upper T p ↔ p.fits cfg = true ∧ OwnsRow cfg T p ∧
      symbolOfText upper p.symbol.ccxtSymbol p.symbol.exchange = p.symbol ∧
      ∀ x ∈ p.decimals, cfg.column x.1 x.2 = x.2 := by
    rw [Symbol.symbolOfText_ccxtSymbol_iff]
    constructor
    · intro h
      exact ⟨h.fits, h.row, ⟨h.spot, h.base, h.isUpper⟩, h.decimals⟩
    · rintro ⟨hfits, hrow, ⟨hspot, hbase, hupper⟩, hdecimals⟩
      exact ⟨hspot, hbase, hupper, hdecimals, hfits, hrow⟩
  rw [hstorable]
  unfold RoundTrips persistUpsert readBack OwnsRow PositionTable.upsertOpen
  cases hfits : p.fits cfg with
  | false => simp
  | true =>
      cases hrow : T.rows.find? (isRowOf cfg p) with
      | some r =>
          have hmatches := List.find?_some hrow
          simp [find?_update hrow, positionOfDict_updatedRow hmatches]
      | none =>
          have hmatches := @isRowOf_positionRow cfg p p rfl rfl
          have hread := @positionOfDict_updatedRow cfg upper p _ hmatches
          rw [updatedRow_positionRow, and_iff_right ⟨rfl, rfl⟩] at hread
          by_cases hid : p.id ∈ T.rows.map PositionRow.id
          · simp [hid]
          · simp [hid, find?_insert hrow, hread]

/-- What is read back is a position of the spot market. -/
theorem assetClass_readBack {q : Position} (h : readBack cfg upper p T = some q) :
    q.symbol.assetClass = .spot := by
  obtain ⟨r, -, hr⟩ := Option.bind_eq_some_iff.1 h
  rw [positionOfDict_toDict] at hr
  obtain rfl := Option.some.inj hr
  rfl

end RoundTrip

/-- A position in futures. -/
def Position.btcFutures : Position where
  id := 1
  symbol := btcUsdt
  side := .long
  quantity := 1
  entryPrice := 100
  currentPrice := 100
  openedAt := 0
  strategyName := "trend"
  tradingMode := .paper

/-- A position in futures comes back as one of the spot market. -/
theorem not_roundTrips :
    ¬ ∀ (cfg : StoredConfig) (upper : UpperCase) (T : PositionTable) (p : Position),
      p.symbol.IsUpper upper → RoundTrips cfg upper T p := by
  intro h
  obtain ⟨T, -, hread⟩ := h .exact .ascii .empty .btcFutures
    ⟨by decide +kernel, by decide +kernel⟩
  cases assetClass_readBack hread

end Sgr
