import Mathlib.Data.List.Perm.Basic
import Sgr.Collection.Dict
import Sgr.Risk.LiveGates

/-!
# The registry of strategies

`StrategyRegistry` of `sgr/strategy/registry.py`, and the bracket that the validation runs of
`sgr/backtesting/engine.py` put around a back-test: the strategies under test are activated for
its duration and those that were inactive are deactivated again. Writes to the database are
best effort and leave no trace in the registry.
-/

open Collection

namespace Sgr

/-- `ValidationStatus`. -/
structure ValidationStatus where
  backtestPassed : Bool := false
  walkForwardPassed : Bool := false
  paperTradingPassed : Bool := false
  liveApproved : Bool := false
  isOperatorOverride : Bool := false
  deriving DecidableEq, Repr

/-- `can_go_live`. -/
def ValidationStatus.canGoLive (s : ValidationStatus) : Bool :=
  s.backtestPassed && s.walkForwardPassed && s.paperTradingPassed

/-- The entry of a strategy in the registry. -/
structure RegisteredStrategy where
  /-- The strategy is a `GridTradingStrategy`. -/
  isGrid : Bool := false
  supportedRegimes : List MarketRegime := []
  isActive : Bool := false
  isValidated : Bool := false
  validationStatus : ValidationStatus := {}
  deactivationReason : Option String := none
  deriving DecidableEq, Repr

/-- What the live trading gate reads of an entry. -/
def RegisteredStrategy.gateEntry (e : RegisteredStrategy) : StrategyEntry where
  isOperatorOverride := e.validationStatus.isOperatorOverride
  liveApproved := e.validationStatus.liveApproved
  isValidated := e.isValidated
  isActive := e.isActive

/-- The entries, in the order of their registration. -/
abbrev StrategyRegistry := Dict String RegisteredStrategy

namespace StrategyRegistry

/-- `_register`: an earlier registration of the name is overwritten. -/
def register (name : String) (isGrid : Bool) (regimes : List MarketRegime)
    (r : StrategyRegistry) : StrategyRegistry :=
  r.set name { isGrid := isGrid, supportedRegimes := regimes }

/-- `unregister`. -/
def unregister (name : String) (r : StrategyRegistry) : StrategyRegistry := r.erase name

/-- A change of the entry of a name; `none` is the `KeyError` of `_get_entry`. -/
def modify (name : String) (f : RegisteredStrategy → RegisteredStrategy) (r : StrategyRegistry) :
    Option StrategyRegistry :=
  (r.get? name).map fun e => r.set name (f e)

/-- `activate`. -/
def activate (name : String) : StrategyRegistry → Option StrategyRegistry :=
  modify name fun e => { e with isActive := true, deactivationReason := none }

/-- `deactivate`. -/
def deactivate (name reason : String) : StrategyRegistry → Option StrategyRegistry :=
  modify name fun e => { e with isActive := false, deactivationReason := some reason }

/-- `mark_validated`. -/
def markValidated (name : String) (status : ValidationStatus) :
    StrategyRegistry → Option StrategyRegistry :=
  modify name fun e => { e with validationStatus := status, isValidated := status.canGoLive }

/-- `is_active`. -/
def isActive (r : StrategyRegistry) (name : String) : Bool := (r.get? name).any (·.isActive)

/-- `get_active`, by name. -/
def getActive (regime : Option MarketRegime) (r : StrategyRegistry) : List String :=
  (r.entries.filter fun e =>
    e.2.isActive && regime.all fun m => decide (m ∈ e.2.supportedRegimes)).map Prod.fst

/-! ### The bracket of a back-test -/

/-- The activations before a back-test: the registry, the strategies activated here, and
whether all of them are registered. -/
def activateAll : List String → StrategyRegistry → StrategyRegistry × List String × Bool
  | [], r => (r, [], true)
  | name :: names, r =>
      if r.isActive name then activateAll names r
      else
        match r.activate name with
        | none => (r, [], false)
        | some r' =>
            let (r'', activatedHere, complete) := activateAll names r'
            (r'', name :: activatedHere, complete)

/-- The deactivations after a back-test, and whether all of them were registered. -/
def deactivateAll : List String → StrategyRegistry → StrategyRegistry × Bool
  | [], r => (r, true)
  | name :: names, r =>
      match r.deactivate name "backtest validation run completed" with
      | none => (r, false)
      | some r' => deactivateAll names r'

/-- `run_full_validation` and `run_quick_backtest` around their body, which asks the active
strategies of the registry. -/
def bracket {α : Type*} (names : List String) (body : List String → Except String α)
    (r : StrategyRegistry) : StrategyRegistry × Except String α :=
  match activateAll names r with
  | (r', _, false) => (r', .error "not registered")
  | (r', activatedHere, true) =>
      match deactivateAll activatedHere r' with
      | (r'', false) => (r'', .error "not registered")
      | (r'', true) => (r'', body (r'.getActive none))

/-! ### What an operation changes -/

section Rules

variable {r r' : StrategyRegistry} {name : String}

theorem modify_eq_some_iff {f : RegisteredStrategy → RegisteredStrategy} :
    r.modify name f = some r' ↔ ∃ e, r.get? name = some e ∧ r' = r.set name (f e) := by
  rw [modify, Option.map_eq_some_iff]
  exact exists_congr fun e => and_congr_right fun _ => eq_comm

theorem get?_modify {f : RegisteredStrategy → RegisteredStrategy}
    (h : r.modify name f = some r') (n : String) :
    r'.get? n = if n = name then (r.get? name).map f else r.get? n := by
  obtain ⟨e, he, rfl⟩ := modify_eq_some_iff.1 h
  rw [Dict.get?_set, he, Option.map_some]

theorem isSome_modify_iff {f : RegisteredStrategy → RegisteredStrategy} :
    (r.modify name f).isSome ↔ (r.get? name).isSome := by
  rw [modify, Option.isSome_map]

theorem isActive_eq_true_iff : r.isActive name = true ↔ ∃ e, r.get? name = some e ∧ e.isActive := by
  rw [isActive, Option.any_eq_true]

/-- The active strategies are those whose entry is active. -/
theorem mem_getActive_none {n : String} : n ∈ r.getActive none ↔ r.isActive n = true := by
  rw [isActive_eq_true_iff, getActive, List.mem_map]
  constructor
  · rintro ⟨⟨k, e⟩, he, rfl⟩
    obtain ⟨hmem, hactive⟩ := List.mem_filter.1 he
    exact ⟨e, (r.mem_entries_iff k e).1 hmem, by simpa using hactive⟩
  · rintro ⟨e, hget, hactive⟩
    exact ⟨(n, e), List.mem_filter.2 ⟨(r.mem_entries_iff n e).2 hget, by simpa using hactive⟩,
      rfl⟩

/-- No name is active twice. -/
theorem nodup_getActive (regime : Option MarketRegime) : (r.getActive regime).Nodup :=
  r.nodup_keys.sublist (List.filter_sublist.map Prod.fst)

/-- When one strategy is active, it is all that the simulator asks. -/
theorem getActive_eq_singleton (h : ∀ n, r.isActive n = true ↔ n = name) :
    r.getActive none = [name] := by
  rw [← List.perm_singleton, List.perm_ext_iff_of_nodup (nodup_getActive none)
    (List.nodup_singleton name)]
  intro n
  rw [mem_getActive_none, h, List.mem_singleton]

/-- The entry of a strategy that a back-test has activated and deactivated again. -/
def RegisteredStrategy.bracketed (e : RegisteredStrategy) : RegisteredStrategy :=
  { e with
    isActive := false
    deactivationReason := some "backtest validation run completed" }

/-- What the activations before a back-test have done. -/
structure Activated (names : List String) (r r' : StrategyRegistry) (activatedHere : List String) :
    Prop where
  nodup : activatedHere.Nodup
  mem_iff : ∀ n, n ∈ activatedHere ↔ n ∈ names ∧ r.isActive n = false
  get : ∀ n, r'.get? n = if n ∈ activatedHere then
    (r.get? n).map fun e => { e with isActive := true, deactivationReason := none }
    else r.get? n

theorem isActive_modify {f : RegisteredStrategy → RegisteredStrategy}
    (h : r.modify name f = some r') (n : String) :
    r'.isActive n = if n = name then (r.get? name).any fun e => (f e).isActive
      else r.isActive n := by
  rw [StrategyRegistry.isActive, get?_modify h]
  split
  · rw [Option.any_map]
  · rfl

theorem activated_activateAll {names activatedHere : List String}
    (h : r.activateAll names = (r', activatedHere, true)) :
    Activated names r r' activatedHere := by
  induction names generalizing r r' activatedHere with
  | nil =>
      cases h
      exact ⟨List.nodup_nil, by simp, by simp⟩
  | cons name names ih =>
      unfold activateAll at h
      split at h
      next hactive =>
        have hrest := ih h
        refine ⟨hrest.nodup, fun n => ?_, hrest.get⟩
        rw [hrest.mem_iff, List.mem_cons]
        constructor
        · rintro ⟨hn, hoff⟩
          exact ⟨.inr hn, hoff⟩
        · rintro ⟨rfl | hn, hoff⟩
          · rw [hactive] at hoff
            cases hoff
          · exact ⟨hn, hoff⟩
      next hinactive =>
        split at h
        · cases h
        next r₁ hr₁ =>
          dsimp only at h
          rcases hall : r₁.activateAll names with ⟨r₂, here₂, complete⟩
          rw [hall] at h
          cases h
          have hrest := ih hall
          have hget := get?_modify hr₁
          have hactive := isActive_modify hr₁
          obtain ⟨e, he, -⟩ := modify_eq_some_iff.1 hr₁
          have hon : r₁.isActive name = true := by
            rw [hactive, if_pos rfl, he]
            rfl
          have hnotmem : name ∉ here₂ := by
            intro hmem
            rw [hrest.mem_iff, hon] at hmem
            cases hmem.2
          refine ⟨List.nodup_cons.2 ⟨hnotmem, hrest.nodup⟩, fun n => ?_, fun n => ?_⟩
          · by_cases hn : n = name
            · subst hn
              simpa using hinactive
            · rw [List.mem_cons, List.mem_cons, hrest.mem_iff, hactive, if_neg hn]
              simp [hn]
          · rw [hrest.get, hget]
            by_cases hn : n = name
            · subst hn
              rw [if_neg hnotmem, if_pos rfl, if_pos List.mem_cons_self]
            · simp [hn]

/-- The strategies under test are active, and so are those that were. -/
theorem Activated.isActive {names activatedHere : List String}
    (h : Activated names r r' activatedHere) (hnames : ∀ n ∈ names, (r.get? n).isSome)
    (n : String) : r'.isActive n = true ↔ r.isActive n = true ∨ n ∈ names := by
  rw [StrategyRegistry.isActive, h.get]
  split
  next hmem =>
    obtain ⟨hn, hoff⟩ := (h.mem_iff n).1 hmem
    obtain ⟨e, he⟩ := Option.isSome_iff_exists.1 (hnames n hn)
    simp [he, hn]
  next hmem =>
    rw [h.mem_iff, not_and, Bool.not_eq_false] at hmem
    change r.isActive n = true ↔ _
    constructor
    · exact .inl
    · rintro (hon | hn)
      · exact hon
      · exact hmem hn

theorem get?_deactivateAll {names : List String} (hnames : ∀ n ∈ names, (r.get? n).isSome) :
    (r.deactivateAll names).2 = true ∧ ∀ n, (r.deactivateAll names).1.get? n =
      if n ∈ names then (r.get? n).map RegisteredStrategy.bracketed else r.get? n := by
  induction names generalizing r with
  | nil => exact ⟨rfl, fun n => rfl⟩
  | cons name names ih =>
      have hself := hnames name List.mem_cons_self
      obtain ⟨r₁, hr₁⟩ := Option.isSome_iff_exists.1 ((isSome_modify_iff (f := fun e =>
        { e with
          isActive := false
          deactivationReason := some "backtest validation run completed" })).2 hself)
      have hget := get?_modify hr₁
      have hregistered : ∀ n ∈ names, (r₁.get? n).isSome := by
        intro n hn
        rw [hget]
        split
        · rw [Option.isSome_map]
          exact hself
        · exact hnames n (List.mem_cons_of_mem name hn)
      obtain ⟨hcomplete, hrest⟩ := ih hregistered
      have hstep : r.deactivateAll (name :: names) = r₁.deactivateAll names := by
        rw [deactivateAll, deactivate, hr₁]
      rw [hstep]
      refine ⟨hcomplete, fun n => ?_⟩
      rw [hrest, hget]
      by_cases hn : n = name
      · subst hn
        rw [if_pos rfl, if_pos List.mem_cons_self]
        split
        · rw [Option.map_map]
          rfl
        · rfl
      · rw [if_neg hn]
        simp [hn]

/-- The activations succeed for registered strategies. -/
theorem complete_activateAll {names : List String} (hnames : ∀ n ∈ names, (r.get? n).isSome) :
    (r.activateAll names).2.2 = true := by
  induction names generalizing r with
  | nil => rfl
  | cons name names ih =>
      have hself := hnames name List.mem_cons_self
      have hrest := fun n hn => hnames n (List.mem_cons_of_mem name hn)
      unfold activateAll
      split
      · exact ih hrest
      · obtain ⟨r₁, hr₁⟩ := Option.isSome_iff_exists.1 ((isSome_modify_iff (f := fun e =>
          { e with isActive := true, deactivationReason := none })).2 hself)
        have hregistered : ∀ n ∈ names, (r₁.get? n).isSome := by
          intro n hn
          rw [get?_modify hr₁]
          split
          · rw [Option.isSome_map]
            exact hself
          · exact hrest n hn
        rw [activate, hr₁]
        exact ih hregistered

/-- A back-test of registered strategies asks those that were active before and those under
test, and it leaves every entry as it was but for the reason of an inactive one. -/
theorem bracket_eq {α : Type*} {names : List String} (hnames : ∀ n ∈ names, (r.get? n).isSome)
    (body : List String → Except String α) :
    ∃ r' asked, r.bracket names body = (r', body asked) ∧
      (∀ n, n ∈ asked ↔ r.isActive n = true ∨ n ∈ names) ∧ asked.Nodup ∧
      ∀ n, r'.get? n = if n ∈ names ∧ r.isActive n = false
        then (r.get? n).map RegisteredStrategy.bracketed else r.get? n := by
  rcases hall : r.activateAll names with ⟨r₁, here, complete⟩
  have hcomplete := complete_activateAll hnames
  rw [hall] at hcomplete
  dsimp only at hcomplete
  subst hcomplete
  have hactivated := activated_activateAll hall
  have hhere : ∀ n ∈ here, (r₁.get? n).isSome := by
    intro n hn
    rw [hactivated.get, if_pos hn, Option.isSome_map]
    exact hnames n ((hactivated.mem_iff n).1 hn).1
  obtain ⟨hdone, hget⟩ := get?_deactivateAll hhere
  rcases hall' : r₁.deactivateAll here with ⟨r₂, done⟩
  rw [hall'] at hdone hget
  dsimp only at hdone hget
  subst hdone
  refine ⟨r₂, r₁.getActive none, ?_, fun n => ?_, nodup_getActive none, fun n => ?_⟩
  · rw [bracket, hall]
    dsimp only
    rw [hall']
  · rw [mem_getActive_none, hactivated.isActive hnames]
  · rw [hget, hactivated.get]
    by_cases hn : n ∈ here
    · rw [if_pos hn, if_pos hn, if_pos ((hactivated.mem_iff n).1 hn), Option.map_map]
      rfl
    · rw [if_neg hn, if_neg hn, if_neg (mt (hactivated.mem_iff n).2 hn)]

end Rules

end StrategyRegistry

end Sgr
