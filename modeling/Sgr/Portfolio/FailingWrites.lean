import Sgr.Collection.Registry
import Sgr.Portfolio.Closing
import Sgr.Portfolio.Restore
import Sgr.Portfolio.Siblings

/-!
# Writes that fail

The writes of the portfolio engine to the `positions` table are best effort: one that fails
is logged, and the engine goes on. `upsert_open` finds the open row of a symbol and leaves
its id, and `close` addresses the id of the position; so a row whose close has failed stays
open for ever.
-/

open Collection Concurrency

namespace Sgr

/-- A call, and which of its writes fail. -/
structure FailingCall where
  call : PortfolioCall
  fails : ℕ → Bool := fun _ => false

/-- A write whose exception is caught. -/
def RowWrite.attempt (cfg : StoredConfig) (fails : Bool) (T : PositionTable) (w : RowWrite) :
    PositionTable :=
  if fails then T else (w.apply cfg T).getD T

/-- The writes of a call, one after the other. -/
def attemptAll (cfg : StoredConfig) (fails : ℕ → Bool) :
    ℕ → List RowWrite → PositionTable → PositionTable
  | _, [], T => T
  | n, w :: ws, T => attemptAll cfg fails (n + 1) ws (w.attempt cfg (fails n) T)

/-- The id of a position that a fill opens is in no row and in no position. -/
def FillCall.HasNewId (f : FillCall) (S : StoredPortfolio) : Prop :=
  S.portfolio.positions.get? f.key = none →
    (∀ r ∈ S.table.rows, r.id ≠ f.positionId) ∧
      ∀ p ∈ S.portfolio.positions.values, p.id ≠ f.positionId

instance (f : FillCall) (S : StoredPortfolio) : Decidable (f.HasNewId S) :=
  inferInstanceAs (Decidable (_ → _ ∧ _))

/-- The engine handles one call after the other, and any write may fail. -/
def failingMachine (cfg : StoredConfig) : Machine StoredPortfolio FailingCall where
  next S a :=
    match a.call with
    | .onOrderFilled f =>
        if f.HasNewId S then
          (onOrderFilled cfg.toPortfolioConfig f S.portfolio).map fun t =>
            ⟨t, attemptAll cfg a.fails 0 (fillWrites cfg f S.portfolio) S.table⟩
        else none
    | .updatePrices prices =>
        some ⟨updatePrices prices S.portfolio,
          attemptAll cfg a.fails 0 (priceWrites prices S.portfolio) S.table⟩

/-- The row is an open row of the engine. -/
def isOwnOpen (cfg : StoredConfig) (r : PositionRow) : Bool :=
  r.isOpen && r.tradingMode = cfg.tradingMode && r.userId = cfg.tenantId

/-- The open rows of the engine under a symbol key. -/
def openRows (cfg : StoredConfig) (T : PositionTable) (key : String) : List PositionRow :=
  T.rows.filter fun r => isOwnOpen cfg r && r.key = key

/-- When the write of the complete close of a position of the symbol fails, the table has no
open row of the position. -/
def LosesNoClose (cfg : StoredConfig) (key : String) (S : StoredPortfolio) (a : FailingCall) :
    Prop :=
  ∀ f, a.call = .onOrderFilled f → f.key = key → ∀ id realizedPnl,
    RowWrite.close id realizedPnl ∈ fillWrites cfg f S.portfolio → a.fails 0 = true →
      ∀ r ∈ S.table.rows, r.id = id → isOwnOpen cfg r = false

/-! ### The table as entries of a registry -/

/-- A row as an entry. -/
def rowEntry (cfg : StoredConfig) (r : PositionRow) : Entry String UUID where
  id := r.id
  key := r.key
  isOpen := isOwnOpen cfg r

/-- The rows of the table as entries. -/
def PositionTable.entries (cfg : StoredConfig) (T : PositionTable) : List (Entry String UUID) :=
  T.rows.map (rowEntry cfg)

/-- The ids of the positions that are held. -/
def PortfolioState.ids (s : PortfolioState) (key : String) : Option UUID :=
  (s.positions.get? key).map Position.id

/-- The engine and its table: each position is under its key, and an id belongs to one key. -/
structure IsKeyed (cfg : StoredConfig) (S : StoredPortfolio) : Prop where
  held : ∀ key p, S.portfolio.positions.get? key = some p →
    p.symbol.str = key ∧ p.tradingMode = cfg.tradingMode
  keyed : Keyed S.portfolio.ids (S.table.entries cfg)

/-- The open rows of the engine under a key are those of the position held under it. -/
def FollowsKey (cfg : StoredConfig) (key : String) (S : StoredPortfolio) : Prop :=
  Collection.Tracks S.portfolio.ids (S.table.entries cfg) key

section Writes

variable {cfg : StoredConfig} {T T' : PositionTable} {p : Position} {key : String}
  {ids : String → Option UUID}

/-- What an upsert does to the entries. -/
theorem entries_upsertOpen (hmode : p.tradingMode = cfg.tradingMode)
    (h : T.upsertOpen cfg p = some T') :
    T'.entries cfg = T.entries cfg ∨
      T'.entries cfg = T.entries cfg ++ [⟨p.id, p.symbol.str, true⟩] := by
  unfold PositionTable.upsertOpen at h
  split at h
  next r hfind =>
    left
    obtain rfl := Option.some.inj h
    have hr := List.mem_of_find?_eq_some hfind
    have hmatches := List.find?_some hfind
    simp only [isRowOf, Bool.and_eq_true, decide_eq_true_eq] at hmatches
    unfold PositionTable.entries PositionTable.update
    rw [List.map_map]
    refine List.map_congr_left fun x hx => ?_
    simp only [Function.comp_apply]
    split
    next hid =>
      obtain rfl := PositionTable.eq_of_id hx hr hid
      simp [rowEntry, isOwnOpen, updatedRow, positionRow, PositionRow.key, hmatches]
    · rfl
  next hfind =>
    right
    split at h
    next => cases h
    next hid =>
      obtain rfl := Option.some.inj h
      unfold PositionTable.entries
      rw [List.map_append, List.map_singleton]
      simp [rowEntry, isOwnOpen, positionRow, PositionRow.key, hmode, Symbol.str,
        Symbol.ccxtSymbol]

theorem entries_close (cfg : StoredConfig) (id : UUID) (realizedPnl : ℚ) (T : PositionTable) :
    (T.close cfg id realizedPnl).entries cfg = closeEntry id (T.entries cfg) := by
  unfold PositionTable.entries PositionTable.close PositionTable.update closeEntry
  rw [List.map_map, List.map_map]
  refine List.map_congr_left fun r _ => ?_
  simp only [Function.comp_apply]
  by_cases hid : r.id = id
  · simp [rowEntry, isOwnOpen, PositionRow.key, hid]
  · simp [rowEntry, hid]

/-- An upsert for a position that is held keeps the entries in step, whether it fails or
not. -/
theorem attempt_upsert (hkeyed : Keyed ids (T.entries cfg))
    (hmode : p.tradingMode = cfg.tradingMode) (hid : ids p.symbol.str = some p.id)
    (fails : Bool) :
    Keyed ids (((RowWrite.upsert p).attempt cfg fails T).entries cfg) ∧
      (Collection.Tracks ids (((RowWrite.upsert p).attempt cfg fails T).entries cfg) key ↔
        Collection.Tracks ids (T.entries cfg) key) := by
  unfold RowWrite.attempt RowWrite.apply
  cases fails with
  | true => exact ⟨hkeyed, Iff.rfl⟩
  | false =>
      cases hupsert : T.upsertOpen cfg p with
      | none => simpa [hupsert] using hkeyed
      | some T' =>
          simp only [Bool.false_eq_true, if_false, hupsert, Option.getD_some]
          rcases entries_upsertOpen hmode hupsert with hentries | hentries
          · rw [hentries]
            exact ⟨hkeyed, Iff.rfl⟩
          · rw [hentries]
            exact ⟨hkeyed.add hid, tracks_add_iff hid⟩

/-- Upserts for positions that are held. -/
theorem attemptAll_upserts {ps : List Position} (hkeyed : Keyed ids (T.entries cfg))
    (hps : ∀ p ∈ ps, p.tradingMode = cfg.tradingMode ∧ ids p.symbol.str = some p.id)
    (fails : ℕ → Bool) (n : ℕ) :
    Keyed ids ((attemptAll cfg fails n (ps.map .upsert) T).entries cfg) ∧
      (Collection.Tracks ids ((attemptAll cfg fails n (ps.map .upsert) T).entries cfg) key ↔
        Collection.Tracks ids (T.entries cfg) key) := by
  induction ps generalizing T n with
  | nil => exact ⟨hkeyed, Iff.rfl⟩
  | cons p ps ih =>
      obtain ⟨hmode, hid⟩ := hps p List.mem_cons_self
      obtain ⟨hkeyed', htracks⟩ := @attempt_upsert cfg T p key ids hkeyed hmode hid (fails n)
      obtain ⟨hrest, htracks'⟩ := ih hkeyed' (fun q hq => hps q (List.mem_cons_of_mem p hq)) (n + 1)
      exact ⟨hrest, htracks'.trans htracks⟩

end Writes

/-! ### What a fill stores and writes -/

/-- The position has the given id, and is one of the engine under the given key. -/
structure Position.IsUnder (cfg : StoredConfig) (p : Position) (id : UUID) (key : String) :
    Prop where
  id : p.id = id
  key : p.symbol.str = key
  mode : p.tradingMode = cfg.tradingMode

/-- What a fill does to the positions, and what it writes. -/
inductive FillEffect (cfg : StoredConfig) (f : FillCall) (s t : PortfolioState) :
    List RowWrite → Prop
  | rests (hsame : t.positions = s.positions) : FillEffect cfg f s t []
  | opens {p : Position} {ps : List Position} (hflat : s.positions.get? f.key = none)
      (hstores : Stores s t f.key (some p))
      (hps : ∀ q ∈ p :: ps, q.IsUnder cfg f.positionId f.key) :
      FillEffect cfg f s t (ps.map .upsert)
  | reduces {p q : Position} (hget : s.positions.get? f.key = some p)
      (hstores : Stores s t f.key (some q))
      (hq : p.symbol.str = f.key → p.tradingMode = cfg.tradingMode →
        q.IsUnder cfg p.id f.key) : FillEffect cfg f s t [.upsert q]
  | closes {p : Position} {realizedPnl : ℚ} (hget : s.positions.get? f.key = some p)
      (hstores : Stores s t f.key none) : FillEffect cfg f s t [.close p.id realizedPnl]

section Fills

variable {cfg : StoredConfig} {f : FillCall} {s t : PortfolioState}

theorem fillEffect_opens {price : ℚ} (hflat : s.positions.get? f.key = none) :
    FillEffect cfg f s (openPositionWith cfg.hook cfg.toPortfolioConfig f price s).updatePeak
      (.upsert (openedPosition cfg.toPortfolioConfig f price) ::
        (protectedPosition cfg.toPortfolioConfig f
          (openedPosition cfg.toPortfolioConfig f price)).toList.map .upsert) := by
  set opened := openedPosition cfg.toPortfolioConfig f price with hopened
  have hunder : opened.IsUnder cfg f.positionId f.key := ⟨rfl, rfl, rfl⟩
  have hstored := (writes_bookOpen cfg.toPortfolioConfig f price s).stores
  have hhook : cfg.hook opened f.result.rawResponse =
      protectedPosition cfg.toPortfolioConfig f opened := rfl
  unfold openPositionWith
  rw [← hopened, hhook]
  cases hprotected : protectedPosition cfg.toPortfolioConfig f opened with
  | none =>
      refine @FillEffect.opens cfg f s _ opened [opened] hflat hstored.updatePeak ?_
      simpa using hunder
  | some q =>
      have hreplaces := replaces_of_protectedPosition hprotected
      refine @FillEffect.opens cfg f s _ q [opened, q] hflat (Stores.updatePeak fun key => ?_) ?_
      · have hget := hstored key
        dsimp only
        rw [Dict.get?_set, hget]
        split <;> rfl
      · have hq : q.IsUnder cfg f.positionId f.key :=
          ⟨hreplaces.id, by rw [hreplaces.symbol]; exact hunder.key, hreplaces.tradingMode⟩
        simpa using ⟨hq, hunder, hq⟩

/-- Every fill has one of these effects. -/
theorem fillEffect_of_some (h : onOrderFilled cfg.toPortfolioConfig f s = some t) :
    FillEffect cfg f s t (fillWrites cfg f s) := by
  rw [← onOrderFilledWith_hook] at h
  cases fillOutcome_of_some h with
  | ignored hprice =>
      rw [fillWrites, hprice]
      exact .rests rfl
  | dropped hprice hflat hid =>
      rw [fillWrites, hprice]
      simp only [hflat, if_pos hid]
      exact .rests rfl
  | opens hprice hflat hid =>
      rw [fillWrites, hprice]
      simp only [hflat, if_neg hid]
      exact fillEffect_opens hflat
  | keeps hprice hget hside =>
      rw [fillWrites, hprice]
      simp only [hget, hside, Bool.false_eq_true, if_false]
      exact .rests s.updatePeak_positions
  | @reduces price p u hprice hget hside hbook =>
      rw [fillWrites, hprice]
      simp only [hget, hside, if_true]
      have hstores : Stores s u f.key ((closeQuote p f price s).left p) :=
        fun key => stores_bookClose hbook key
      unfold CloseQuote.left at hstores
      split
      next hfull =>
        rw [if_pos hfull] at hstores
        exact .closes hget (Stores.updatePeak hstores)
      next hpart =>
        rw [if_neg hpart] at hstores
        exact .reduces hget hstores.updatePeak fun hkey hmode => ⟨rfl, hkey, hmode⟩

end Fills

/-! ### One call -/

section Calls

variable {cfg : StoredConfig} {S S' : StoredPortfolio} {a : FailingCall} {key : String}

theorem Stores.ids {s t : PortfolioState} {v : Option Position} (h : Stores s t key v) :
    t.ids = Function.update s.ids key (v.map Position.id) := by
  funext key'
  rw [PortfolioState.ids, h key']
  by_cases hkey : key' = key
  · rw [if_pos hkey, hkey, Function.update_self]
  · rw [if_neg hkey, Function.update_of_ne hkey]
    rfl

theorem ids_updatePrices (prices : String → Option ℚ) (s : PortfolioState) :
    (updatePrices prices s).ids = s.ids := by
  funext key
  rw [PortfolioState.ids, PortfolioState.ids, get?_updatePrices, Option.map_map]
  congr 1
  funext p
  simp only [Function.comp_apply, Position.atPrices]
  cases prices p.symbol.ccxtSymbol <;> rfl

/-- The positions after a fill are under their keys. -/
theorem FillEffect.held {f : FillCall} {s t : PortfolioState} {ws : List RowWrite}
    (h : FillEffect cfg f s t ws)
    (hs : ∀ key p, s.positions.get? key = some p →
      p.symbol.str = key ∧ p.tradingMode = cfg.tradingMode) :
    ∀ key p, t.positions.get? key = some p →
      p.symbol.str = key ∧ p.tradingMode = cfg.tradingMode := by
  have hslot : ∀ v, Stores s t f.key v →
      (∀ p, v = some p → p.symbol.str = f.key ∧ p.tradingMode = cfg.tradingMode) →
      ∀ key p, t.positions.get? key = some p →
        p.symbol.str = key ∧ p.tradingMode = cfg.tradingMode := by
    intro v hstores hv key p hp
    rw [hstores key] at hp
    split at hp
    next hkey =>
      rw [hkey]
      exact hv p hp
    next hkey => exact hs key p hp
  cases h with
  | rests hsame =>
      rw [hsame]
      exact hs
  | opens hflat hstores hps =>
      refine hslot _ hstores fun p hp => ?_
      obtain rfl := Option.some.inj hp
      have hunder := hps _ List.mem_cons_self
      exact ⟨hunder.key, hunder.mode⟩
  | reduces hget hstores hq =>
      refine hslot _ hstores fun p hp => ?_
      obtain rfl := Option.some.inj hp
      obtain ⟨hkey, hmode⟩ := hs _ _ hget
      have hunder := hq hkey hmode
      exact ⟨hunder.key, hunder.mode⟩
  | closes hget hstores => exact hslot _ hstores fun p hp => by cases hp

theorem isNew_of_hasNewId {f : FillCall} (hnew : f.HasNewId S)
    (hflat : S.portfolio.positions.get? f.key = none) :
    IsNew f.positionId S.portfolio.ids (S.table.entries cfg) := by
  obtain ⟨hrows, hheld⟩ := hnew hflat
  constructor
  · intro key hid
    obtain ⟨p, hp, hpid⟩ := Option.map_eq_some_iff.1 hid
    exact hheld p ((Dict.mem_values_iff _ p).2 ⟨key, hp⟩) hpid
  · intro e he
    obtain ⟨r, hr, rfl⟩ := List.mem_map.1 he
    exact hrows r hr

/-- After the writes of a fill the open rows of a key are in step exactly when they were
before and no close of the key is lost. -/
def StaysInStep (cfg : StoredConfig) (key : String) (S : StoredPortfolio) (f : FillCall)
    (t : PortfolioState) (ws : List RowWrite) (fails : ℕ → Bool) : Prop :=
  Keyed t.ids ((attemptAll cfg fails 0 ws S.table).entries cfg) ∧
    (Collection.Tracks t.ids ((attemptAll cfg fails 0 ws S.table).entries cfg) key ↔
      FollowsKey cfg key S ∧
        (f.key = key → ∀ id realizedPnl, RowWrite.close id realizedPnl ∈ ws →
          fails 0 = true → ∀ r ∈ S.table.rows, r.id = id → isOwnOpen cfg r = false))

section Effects

variable {f : FillCall} {t : PortfolioState} {ws : List RowWrite}

/-- A position is opened under a new id. -/
theorem staysInStep_opens {p : Position} {ps : List Position} (hkeyed : IsKeyed cfg S)
    (hnew : f.HasNewId S) (hflat : S.portfolio.positions.get? f.key = none)
    (hstores : Stores S.portfolio t f.key (some p))
    (hps : ∀ q ∈ p :: ps, q.IsUnder cfg f.positionId f.key) (fails : ℕ → Bool) :
    StaysInStep cfg key S f t (ps.map .upsert) fails := by
  have hisNew := @isNew_of_hasNewId cfg S f hnew hflat
  have hunder := hps p List.mem_cons_self
  have hids := hstores.ids
  rw [Option.map_some, hunder.id] at hids
  have hnone : S.portfolio.ids f.key = none := by
    rw [PortfolioState.ids, hflat]
    rfl
  have hregister := hkeyed.keyed.register (k := f.key) hisNew
  rw [← hids] at hregister
  have hwritten : ∀ q ∈ ps, q.tradingMode = cfg.tradingMode ∧
      t.ids q.symbol.str = some q.id := by
    intro q hq
    have hq' := hps q (List.mem_cons_of_mem p hq)
    rw [hids, hq'.key, hq'.id, Function.update_self]
    exact ⟨hq'.mode, rfl⟩
  obtain ⟨hafter, htracks⟩ := @attemptAll_upserts cfg _ key _ _ hregister hwritten fails 0
  refine ⟨hafter, htracks.trans ?_⟩
  rw [hids, tracks_register_iff hisNew hnone]
  simp [FollowsKey]

/-- A position is closed, and the write of the close fails or not. -/
theorem staysInStep_closes {p : Position} (hkeyed : IsKeyed cfg S)
    (hget : S.portfolio.positions.get? f.key = some p) (hstores : Stores S.portfolio t f.key none)
    (realizedPnl : ℚ) (fails : ℕ → Bool) :
    StaysInStep cfg key S f t [.close p.id realizedPnl] fails := by
  have hid : S.portfolio.ids f.key = some p.id := by
    rw [PortfolioState.ids, hget]
    rfl
  rw [StaysInStep, hstores.ids, Option.map_none]
  simp only [attemptAll, RowWrite.attempt, RowWrite.apply, Option.getD_some]
  cases hfails : fails 0 with
  | true =>
      rw [if_pos rfl]
      refine ⟨hkeyed.keyed.giveUp f.key, ?_⟩
      rw [tracks_giveUp_iff hkeyed.keyed hid]
      refine and_congr_right fun _ => ⟨fun hclosed hkey id pnl hmem _ r hr hrid => ?_,
        fun hclosed hkey e he heid => ?_⟩
      · obtain rfl := (RowWrite.close.inj (List.mem_singleton.1 hmem)).1
        exact hclosed hkey.symm (rowEntry cfg r) (List.mem_map_of_mem hr) hrid
      · obtain ⟨r, hr, rfl⟩ := List.mem_map.1 he
        exact hclosed hkey.symm p.id realizedPnl List.mem_cons_self rfl r hr heid
  | false =>
      rw [if_neg Bool.false_ne_true, entries_close]
      refine ⟨(hkeyed.keyed.closeEntry p.id).giveUp f.key, ?_⟩
      rw [tracks_giveUp_closeEntry_iff hkeyed.keyed hid]
      simp [FollowsKey]

/-- What a fill does to the entries. -/
theorem FillEffect.staysInStep (h : FillEffect cfg f S.portfolio t ws) (hkeyed : IsKeyed cfg S)
    (hnew : f.HasNewId S) (fails : ℕ → Bool) : StaysInStep cfg key S f t ws fails := by
  cases h with
  | rests hsame =>
      have hids : t.ids = S.portfolio.ids := by
        unfold PortfolioState.ids
        rw [hsame]
      rw [StaysInStep, hids]
      exact ⟨hkeyed.keyed, by simp [FollowsKey, attemptAll]⟩
  | opens hflat hstores hps => exact staysInStep_opens hkeyed hnew hflat hstores hps fails
  | @reduces p q hget hstores hq =>
      obtain ⟨hkey, hmode⟩ := hkeyed.held f.key p hget
      have hunder := hq hkey hmode
      have hid : S.portfolio.ids f.key = some p.id := by
        rw [PortfolioState.ids, hget]
        rfl
      have hids := hstores.ids
      rw [Option.map_some, hunder.id, ← hid, Function.update_eq_self] at hids
      rw [StaysInStep, hids]
      have hwritten : ∀ q' ∈ [q], q'.tradingMode = cfg.tradingMode ∧
          S.portfolio.ids q'.symbol.str = some q'.id := by
        intro q' hq'
        obtain rfl := List.mem_singleton.1 hq'
        rw [hunder.key, hunder.id]
        exact ⟨hunder.mode, hid⟩
      obtain ⟨hafter, htracks⟩ := @attemptAll_upserts cfg _ key _ _ hkeyed.keyed hwritten fails 0
      exact ⟨hafter, htracks.trans (by simp [FollowsKey])⟩
  | closes hget hstores => exact staysInStep_closes hkeyed hget hstores _ fails

end Effects

/-- The positions that `update_prices` has repriced. -/
def repricedPositions (prices : String → Option ℚ) (s : PortfolioState) : List Position :=
  s.positions.entries.filterMap fun e => (prices e.2.symbol.ccxtSymbol).map (repriced e.2)

theorem priceWrites_eq (prices : String → Option ℚ) (s : PortfolioState) :
    priceWrites prices s = (repricedPositions prices s).map .upsert := by
  rw [priceWrites, repricedPositions, List.map_filterMap]
  congr 1
  funext e
  rw [Option.map_map]
  rfl

/-- A call of `update_prices` writes for positions that are held. -/
theorem isHeld_of_mem_repricedPositions (h : IsKeyed cfg S) (prices : String → Option ℚ) :
    ∀ p ∈ repricedPositions prices S.portfolio, p.tradingMode = cfg.tradingMode ∧
      S.portfolio.ids p.symbol.str = some p.id := by
  intro p hp
  obtain ⟨⟨k, q⟩, hmem, hq⟩ := List.mem_filterMap.1 hp
  obtain ⟨price, -, rfl⟩ := Option.map_eq_some_iff.1 hq
  have hget := (Dict.mem_entries_iff _ k q).1 hmem
  obtain ⟨hkey, hmode⟩ := h.held k q hget
  refine ⟨hmode, ?_⟩
  change S.portfolio.ids q.symbol.str = some q.id
  rw [hkey, PortfolioState.ids, hget]
  rfl

/-- A call leaves the open rows of a key in step exactly when it loses no close. -/
theorem followsKey_iff_of_next (h : IsKeyed cfg S)
    (hnext : (failingMachine cfg).next S a = some S') :
    IsKeyed cfg S' ∧ (FollowsKey cfg key S' ↔ FollowsKey cfg key S ∧ LosesNoClose cfg key S a) := by
  obtain ⟨call, fails⟩ := a
  cases call with
  | onOrderFilled f =>
      simp only [failingMachine] at hnext
      split at hnext
      next hnew =>
        obtain ⟨t, hfill, rfl⟩ := Option.map_eq_some_iff.1 hnext
        have heffect := fillEffect_of_some hfill
        have hstays : StaysInStep cfg key S f t _ fails := heffect.staysInStep h hnew fails
        obtain ⟨hkeyed, htracks⟩ := hstays
        refine ⟨⟨heffect.held h.held, hkeyed⟩, htracks.trans (and_congr_right fun _ => ?_)⟩
        constructor
        · intro hclosed f' hf' hkey
          obtain rfl := PortfolioCall.onOrderFilled.inj hf'
          exact hclosed hkey
        · intro hloses hkey
          exact hloses f rfl hkey
      next => cases hnext
  | updatePrices prices =>
      obtain rfl := Option.some.inj hnext
      obtain ⟨hafter, htracks⟩ := @attemptAll_upserts cfg _ key _ _ h.keyed
        (isHeld_of_mem_repricedPositions h prices) fails 0
      rw [← priceWrites_eq, ← ids_updatePrices prices] at hafter htracks
      refine ⟨⟨?_, hafter⟩, htracks.trans ?_⟩
      · intro k p hp
        rw [get?_updatePrices] at hp
        obtain ⟨q, hq, rfl⟩ := Option.map_eq_some_iff.1 hp
        obtain ⟨hkey, hmode⟩ := h.held k q hq
        unfold Position.atPrices
        cases prices q.symbol.ccxtSymbol with
        | none => exact ⟨hkey, hmode⟩
        | some price => exact ⟨hkey, hmode⟩
      · rw [ids_updatePrices]
        exact (and_iff_left fun f hf => by cases hf).symm

/-! ### Runs -/

/-- An engine with a table that agrees with it on the open rows of a key. -/
structure StartsInStep (cfg : StoredConfig) (key : String) (S : StoredPortfolio) : Prop where
  keyed : IsKeyed cfg S
  follows : FollowsKey cfg key S

/-- In a state in which the engine holds nothing under a key, the table has no open row of the
engine under it exactly when no close of the key has been lost. -/
theorem openRows_eq_nil_iff {as : List FailingCall} (hstart : StartsInStep cfg key S)
    (hrun : (failingMachine cfg).run S as = some S')
    (hclosed : S'.portfolio.positions.get? key = none) :
    openRows cfg S'.table key = [] ↔ (failingMachine cfg).Guarded (LosesNoClose cfg key) S as := by
  have hguarded : FollowsKey cfg key S' ↔ FollowsKey cfg key S ∧
      (failingMachine cfg).Guarded (LosesNoClose cfg key) S as :=
    (failingMachine cfg).run_iff_guarded (I := IsKeyed cfg) (φ := FollowsKey cfg key)
      (fun s a t hs hnext => (@followsKey_iff_of_next cfg s t a key hs hnext).1)
      (fun s a t hs hnext => (followsKey_iff_of_next hs hnext).2) hstart.keyed hrun
  rw [and_iff_right hstart.follows] at hguarded
  rw [← hguarded]
  have hnone : S'.portfolio.ids key = none := by
    rw [PortfolioState.ids, hclosed]
    rfl
  rw [FollowsKey, tracks_iff_of_none hnone, openRows, List.filter_eq_nil_iff]
  constructor
  · intro hrows e he hkey
    obtain ⟨r, hr, rfl⟩ := List.mem_map.1 he
    have hrow := hrows r hr
    simpa [rowEntry, show r.key = key from hkey] using hrow
  · intro hentries r hr hopen
    rw [Bool.and_eq_true, decide_eq_true_eq] at hopen
    have hentry := hentries (rowEntry cfg r) (List.mem_map_of_mem hr) hopen.2
    rw [show isOwnOpen cfg r = false from hentry] at hopen
    cases hopen.1

end Calls

/-- A fresh engine on a table without an open row of it under the key. -/
theorem startsInStep_init {cfg : StoredConfig} {T : PositionTable} {key : String} (cash : ℚ)
    (gate : Option LiveVerificationState) (h : openRows cfg T key = []) :
    StartsInStep cfg key ⟨.init cash gate, T⟩ where
  keyed :=
    { held := fun _ _ hp => by cases hp
      keyed :=
        { registered := fun _ _ _ hid => by cases hid
          entries := fun _ _ _ hid => by cases hid } }
  follows := by
    intro e he hopen hkey
    obtain ⟨r, hr, rfl⟩ := List.mem_map.1 he
    have hopen' : isOwnOpen cfg r = true := hopen
    have hkey' : r.key = key := hkey
    have hrow := List.filter_eq_nil_iff.1 h r hr
    simp [hopen', hkey'] at hrow

/-- A position of 1 that is opened and closed. -/
def FailingCall.btc (n : ℕ) (side : Side) : FailingCall :=
  ⟨.onOrderFilled (.btc n side 1 100), fun _ => false⟩

/-- A close whose write fails. -/
def FailingCall.lost : FailingCall := { FailingCall.btc 2 .sell with fails := fun _ => true }

theorem openRows_eq_nil_iff_lost :
    ∃ S, (failingMachine .exact).run ⟨.init 1000 none, .empty⟩ [.btc 1 .buy, .lost] = some S ∧
      (openRows .exact S.table btcUsdt.str = [] ↔ (failingMachine .exact).Guarded
        (LosesNoClose .exact btcUsdt.str) ⟨.init 1000 none, .empty⟩ [.btc 1 .buy, .lost]) := by
  have hrun : ((failingMachine .exact).run ⟨.init 1000 none, .empty⟩
      [.btc 1 .buy, .lost]).any
        (fun S => (S.portfolio.positions.get? btcUsdt.str).isNone) = true := by
    decide +kernel
  obtain ⟨S, hS, hclosed⟩ := (Option.any_eq_true _ _).1 hrun
  exact ⟨S, hS, openRows_eq_nil_iff (startsInStep_init 1000 none rfl) hS (by simpa using hclosed)⟩

/-- After a lost close, the row stays open when the symbol is opened and closed again. -/
theorem not_openRows_eq_nil :
    ¬ ∀ (cfg : StoredConfig) (key : String) (S U S' : StoredPortfolio)
      (before opens closes : List FailingCall), StartsInStep cfg key S →
      (failingMachine cfg).run S (before ++ opens) = some U →
      (U.portfolio.positions.get? key).isSome = true →
      (failingMachine cfg).run U closes = some S' →
      S'.portfolio.positions.get? key = none →
      (∀ a ∈ opens ++ closes, ∀ n, a.fails n = false) → openRows cfg S'.table key = [] := by
  intro h
  have hopened : ((failingMachine .exact).run ⟨.init 1000 none, .empty⟩
      ([.btc 1 .buy, .lost] ++ [.btc 3 .buy])).any (fun U =>
        (U.portfolio.positions.get? btcUsdt.str).isSome &&
          ((failingMachine .exact).run U [.btc 4 .sell]).any fun S' =>
            (S'.portfolio.positions.get? btcUsdt.str).isNone &&
              !(openRows .exact S'.table btcUsdt.str).isEmpty) = true := by
    decide +kernel
  obtain ⟨U, hU, hrest⟩ := (Option.any_eq_true _ _).1 hopened
  rw [Bool.and_eq_true] at hrest
  obtain ⟨S', hS', hend⟩ := (Option.any_eq_true _ _).1 hrest.2
  rw [Bool.and_eq_true, Option.isNone_iff_eq_none] at hend
  have hrows := h .exact btcUsdt.str _ U S' [.btc 1 .buy, .lost] [.btc 3 .buy] [.btc 4 .sell]
    (startsInStep_init 1000 none rfl) hU hrest.1 hS' hend.1 (by simp [FailingCall.btc])
  rw [hrows] at hend
  cases hend.2

end Sgr
