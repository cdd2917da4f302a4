import Sgr.Portfolio.PositionDicts

/-!
# Restoring rows one by one

`restore_from_persistence` of the portfolio engine takes over the rows one after the other,
and each row changes the positions and the cash. When a row cannot be converted it raises
with the rows before it taken over, and a second call books the rows a second time.
-/

open Collection

namespace Sgr

/-! ### The restoration -/

/-- What the repository answers. -/
inductive RowsAnswer
  /-- No repository was injected. -/
  | noRepository
  /-- The database fails. -/
  | failed
  | rows (ds : List PositionDict)

/-- The loop of `restore_from_persistence`; `none` is an exception. -/
def restoreRows (upper : UpperCase) :
    List PositionDict → PortfolioState → PortfolioState × Option ℕ
  | [], s => (s, some 0)
  | d :: ds, s =>
      match positionOfDict upper d with
      | none => (s, none)
      | some p =>
          match restoreRows upper ds (s.takeOver p) with
          | (t, restored) => (t, restored.map (· + 1))

/-- `restore_from_persistence`, with the number of restored positions; `none` is an
exception. -/
def restoreFrom (upper : UpperCase) (answer : RowsAnswer) (s : PortfolioState) :
    PortfolioState × Option ℕ :=
  match answer with
  | .noRepository => (s, none)
  | .failed => (s, none)
  | .rows ds =>
      match restoreRows upper ds s with
      | (t, some restored) => (t.updatePeak, some restored)
      | (t, none) => (t, none)

/-- The second engine holds the positions and the cash of the first. -/
structure HoldsAsBefore (s t : PortfolioState) : Prop where
  positions : ∀ key, t.positions.get? key = s.positions.get? key
  cash : t.cash = s.cash

/-- A call that raises changes nothing, and a second call after one that returns changes
nothing. -/
structure RestoresSafely (upper : UpperCase) (answer : RowsAnswer) (s : PortfolioState) :
    Prop where
  atomic : (restoreFrom upper answer s).2 = none →
    HoldsAsBefore s (restoreFrom upper answer s).1
  idempotent : (restoreFrom upper answer s).2 ≠ none →
    HoldsAsBefore (restoreFrom upper answer s).1
      (restoreFrom upper answer (restoreFrom upper answer s).1).1

/-! ### When it is safe -/

/-- The positions of the rows up to the first one that cannot be converted. -/
def readablePositions (upper : UpperCase) : List PositionDict → List Position
  | [] => []
  | d :: ds =>
      match positionOfDict upper d with
      | none => []
      | some p => p :: readablePositions upper ds

/-- The last position under a key. -/
def lastUnder (key : String) (ps : List Position) : Option Position :=
  ps.reverse.find? fun p => p.symbol.str = key

/-- The rows of an answer. -/
def RowsAnswer.dicts : RowsAnswer → List PositionDict
  | .rows ds => ds
  | _ => []

/-- The entry values of the rows that are converted, positive for long and negative for
short positions, add up to zero; and when some row cannot be converted, the engine holds the
positions of the rows before it already. -/
structure ChangesNothing (upper : UpperCase) (ds : List PositionDict) (s : PortfolioState) :
    Prop where
  balanced : ((readablePositions upper ds).map Position.bookValue).sum = 0
  held : (∃ d ∈ ds, positionOfDict upper d = none) →
    ∀ key, ∀ p ∈ lastUnder key (readablePositions upper ds), s.positions.get? key = some p

section Restore

variable {upper : UpperCase} {ds : List PositionDict} {d : PositionDict} {ps : List Position}
  {s t : PortfolioState}

theorem get?_foldl_takeOver (ps : List Position) (s : PortfolioState) (key : String) :
    (ps.foldl PortfolioState.takeOver s).positions.get? key =
      (lastUnder key ps).or (s.positions.get? key) := by
  rw [(foldl_takeOver ps s).1]
  exact Dict.get?_foldl_set_key (fun p : Position => p.symbol.str) ps s.positions key

/-- The loop takes over the rows up to the first one that cannot be converted. -/
theorem restoreRows_fst (upper : UpperCase) (ds : List PositionDict) (s : PortfolioState) :
    (restoreRows upper ds s).1 =
      (readablePositions upper ds).foldl PortfolioState.takeOver s := by
  induction ds generalizing s with
  | nil => rfl
  | cons d ds ih =>
      rw [restoreRows, readablePositions]
      cases positionOfDict upper d with
      | none => rfl
      | some p => exact ih (s.takeOver p)

theorem restoreRows_snd_eq_none_iff (upper : UpperCase) (ds : List PositionDict)
    (s : PortfolioState) :
    (restoreRows upper ds s).2 = none ↔ ∃ d ∈ ds, positionOfDict upper d = none := by
  induction ds generalizing s with
  | nil => simp [restoreRows]
  | cons d ds ih =>
      rw [restoreRows, List.exists_mem_cons_iff]
      cases hd : positionOfDict upper d with
      | none => simp
      | some p => simpa using ih (s.takeOver p)

/-- The holdings after the loop. -/
theorem holdsAsBefore_restoreFrom (upper : UpperCase) (answer : RowsAnswer)
    (s : PortfolioState) :
    HoldsAsBefore ((readablePositions upper answer.dicts).foldl PortfolioState.takeOver s)
      (restoreFrom upper answer s).1 := by
  cases answer with
  | noRepository => exact ⟨fun _ => rfl, rfl⟩
  | failed => exact ⟨fun _ => rfl, rfl⟩
  | rows ds =>
      rw [RowsAnswer.dicts, ← restoreRows_fst]
      simp only [restoreFrom]
      split
      next t restored hrows =>
        rw [hrows]
        exact ⟨fun key => by rw [PortfolioState.updatePeak_positions], t.updatePeak_cash⟩
      next t hrows =>
        rw [hrows]
        exact ⟨fun _ => rfl, rfl⟩

theorem restoreFrom_raises_iff (upper : UpperCase) (ds : List PositionDict)
    (s : PortfolioState) :
    (restoreFrom upper (.rows ds) s).2 = none ↔ ∃ d ∈ ds, positionOfDict upper d = none := by
  rw [← restoreRows_snd_eq_none_iff upper ds s]
  simp only [restoreFrom]
  split
  next t restored hrows => simp [hrows]
  next t hrows => simp [hrows]

/-- What a call does to the holdings. -/
theorem restoreFrom_holdings (upper : UpperCase) (answer : RowsAnswer) (s : PortfolioState) :
    (∀ key, (restoreFrom upper answer s).1.positions.get? key =
      (lastUnder key (readablePositions upper answer.dicts)).or (s.positions.get? key)) ∧
      (restoreFrom upper answer s).1.cash =
        s.cash - ((readablePositions upper answer.dicts).map Position.bookValue).sum := by
  have hsame := holdsAsBefore_restoreFrom upper answer s
  refine ⟨fun key => ?_, ?_⟩
  · rw [hsame.positions, get?_foldl_takeOver]
  · rw [hsame.cash, (foldl_takeOver _ s).2]

/-- The restoration is atomic and idempotent exactly when it books nothing, and has nothing
to store when it raises. -/
theorem restoresSafely_iff (upper : UpperCase) (answer : RowsAnswer) (s : PortfolioState) :
    RestoresSafely upper answer s ↔ ChangesNothing upper answer.dicts s := by
  obtain ⟨hget, hcash⟩ := restoreFrom_holdings upper answer s
  obtain ⟨hget', hcash'⟩ := restoreFrom_holdings upper answer (restoreFrom upper answer s).1
  have hnoRows : ∀ {answer : RowsAnswer}, restoreFrom upper answer s = (s, none) →
      answer.dicts = [] →
      (RestoresSafely upper answer s ↔ ChangesNothing upper answer.dicts s) := by
    intro answer hanswer hdicts
    refine iff_of_true ⟨fun _ => ?_, fun h => absurd (by rw [hanswer]) h⟩ ⟨?_, ?_⟩
    · rw [hanswer]
      exact ⟨fun _ => rfl, rfl⟩
    · rw [hdicts]
      rfl
    · simp [hdicts]
  cases answer with
  | noRepository => exact hnoRows rfl rfl
  | failed => exact hnoRows rfl rfl
  | rows ds =>
      simp only [RowsAnswer.dicts] at hget hcash hget' hcash' ⊢
      have hraises := restoreFrom_raises_iff upper ds s
      constructor
      · rintro ⟨hatomic, hidempotent⟩
        by_cases hnone : (restoreFrom upper (.rows ds) s).2 = none
        · obtain ⟨hpositions, hsame⟩ := hatomic hnone
          refine ⟨by linarith, fun _ key p hp => ?_⟩
          rw [← hpositions key, hget, hp, Option.some_or]
        · obtain ⟨-, hsame⟩ := hidempotent hnone
          exact ⟨by linarith, fun h => absurd (hraises.2 h) hnone⟩
      · rintro ⟨hbalanced, hheld⟩
        refine ⟨fun hnone => ⟨fun key => ?_, by linarith⟩, fun _ => ⟨fun key => ?_, by linarith⟩⟩
        · rw [hget]
          cases hlast : lastUnder key (readablePositions upper ds) with
          | none => rfl
          | some p => rw [Option.some_or, hheld (hraises.1 hnone) key p hlast]
        · rw [hget', hget, ← Option.or_assoc, Option.or_self]

/-- The rows of the typed table, whose texts are in upper case, are restored as there. -/
theorem restoreFrom_toDict {cfg : StoredConfig} {gate : Option LiveVerificationState}
    {T : PositionTable}
    (hupper : ∀ r ∈ getOpenPositions cfg T,
      symbolOfText upper r.symbol r.exchange = symbolOfRow r) :
    (restoreFrom upper (.rows ((getOpenPositions cfg T).map PositionRow.toDict))
        (.init cfg.initialCash gate)) =
      (restoreFromPersistence cfg gate T, some (getOpenPositions cfg T).length) := by
  have hloop : ∀ (rows : List PositionRow), (∀ r ∈ rows,
      symbolOfText upper r.symbol r.exchange = symbolOfRow r) → ∀ s : PortfolioState,
      restoreRows upper (rows.map PositionRow.toDict) s =
        (rows.foldl restorePosition s, some rows.length) := by
    intro rows hrows
    induction rows with
    | nil => exact fun s => rfl
    | cons r rows ih =>
        intro s
        rw [List.map_cons, restoreRows, positionOfDict_toDict,
          hrows r List.mem_cons_self]
        dsimp only
        rw [ih (fun r' hr' => hrows r' (List.mem_cons_of_mem r hr'))]
        rfl
  rw [restoreFrom, hloop _ hupper]
  rfl

end Restore

/-- The row of a long position of 1 at 100. -/
def PositionDict.btc : PositionDict where
  id := 1
  symbol := "BTC/USDT"
  exchange := "binance"
  side := "long"
  quantity := 1
  entryPrice := 100
  currentPrice := 100
  strategyName := "trend"
  tradingMode := "paper"

/-- A row that cannot be converted leaves the row before it in the engine, and a second call
pays for a position a second time. -/
theorem not_restoresSafely :
    ¬ RestoresSafely .ascii (.rows [.btc, { PositionDict.btc with exchange := "ftx" }])
        (.init 1000 none) ∧
      ¬ RestoresSafely .ascii (.rows [.btc]) (.init 1000 none) := by
  constructor
  · intro h
    have hcash := (h.atomic (by decide +kernel)).cash
    revert hcash
    decide +kernel
  · intro h
    have hcash := (h.idempotent (by decide +kernel)).cash
    revert hcash
    decide +kernel

end Sgr
