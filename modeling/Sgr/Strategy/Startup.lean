import Sgr.Strategy.Registry

/-!
# The strategies after a start of the worker

The part of `lifespan` in `sgr/api/main.py` that fills the registry: the imported classes, the
validations of `sgr/strategy/validation_runner.py` and `sgr/strategy/grid_validation_runner.py`,
the overrides of the operator, the activation of what is validated, and last what
`RecoveryManager._restore_strategies` of `sgr/core/resilience.py` makes of the rows that were
active before. What a back-test answers is any function of the strategies it asks.
-/

open Collection

namespace Sgr

/-- What `_to_validation_status` reads of a `FullValidationReport`. -/
structure ValidationReport where
  isAcceptable : Bool
  /-- `is_consistent` of the walk-forward, when there was one. -/
  walkForward : Option Bool
  deriving DecidableEq, Repr

/-- `_to_validation_status`; the paper trading is a placeholder of the source. -/
def toValidationStatus (report : ValidationReport) : ValidationStatus where
  backtestPassed := report.isAcceptable
  walkForwardPassed := report.walkForward.any id
  paperTradingPassed := true
  liveApproved := false

/-- The ways through `_validate_one` of the grid runner. -/
inductive GridVerdict
  /-- Fewer than 200 candles in the sample, or the decision is neutral. -/
  | unmeasured
  /-- The edge in the sample, and the one outside of it for at least 100 candles. -/
  | measured (isConfirmed : Bool) (oosConfirmed : Option Bool)
  deriving DecidableEq, Repr

/-- The status that `_validate_one` returns. -/
def GridVerdict.status : GridVerdict → ValidationStatus
  | .unmeasured => {}
  | .measured isConfirmed oosConfirmed =>
      { backtestPassed := isConfirmed
        walkForwardPassed := isConfirmed && oosConfirmed.any id
        paperTradingPassed := true
        liveApproved := false }

/-- The status of `apply_strategy_force_activate_override`. -/
def overrideStatus : ValidationStatus where
  backtestPassed := true
  walkForwardPassed := true
  paperTradingPassed := true
  liveApproved := false
  isOperatorOverride := true

/-- What a start of the worker meets. -/
structure StartupEnv where
  /-- The imported classes: name, whether it is a grid, regimes. -/
  classes : List (String × Bool × List MarketRegime)
  /-- What the validation of a strategy answers when its simulator asks these. -/
  backtest : String → List String → Except String ValidationReport
  /-- What the validation of a grid answers; the same error for all when the history does
  not load. -/
  gridBacktest : String → Except String GridVerdict
  /-- `STRATEGY_FORCE_ACTIVATE`. -/
  overrides : List String
  /-- `set_validated` succeeds. -/
  setValidated : String → Bool
  /-- `get_active_names`, when it can be read: what earlier runs and the API have left. -/
  activeNames : Option (List String)

namespace StrategyRegistry

/-- The `@StrategyRegistry.register` decorators. -/
def registerAll (classes : List (String × Bool × List MarketRegime)) : StrategyRegistry :=
  classes.foldl (fun r c => r.register c.1 c.2.1 c.2.2) Dict.empty

/-- The strategies that a runner finds not validated, grids or the others. -/
def pending (isGrid : Bool) (r : StrategyRegistry) : List String :=
  (r.entries.filter fun e => !e.2.isValidated && e.2.isGrid == isGrid).map Prod.fst

/-- One pass of the loop of `validate_pending_strategies`. -/
def validate (backtest : String → List String → Except String ValidationReport)
    (name : String) (r : StrategyRegistry) : StrategyRegistry :=
  match r.bracket [name] (backtest name) with
  | (r', .error _) => r'
  | (r', .ok report) => (r'.markValidated name (toValidationStatus report)).getD r'

/-- One pass of the loop of `validate_pending_grid_strategies`. -/
def validateGrid (gridBacktest : String → Except String GridVerdict) (name : String)
    (r : StrategyRegistry) : StrategyRegistry :=
  match gridBacktest name with
  | .error _ => r
  | .ok verdict => (r.markValidated name verdict.status).getD r

/-- `apply_strategy_force_activate_override`: an unknown name is skipped, and a failing write
ends the start. -/
def applyOverrides (setValidated : String → Bool) :
    List String → StrategyRegistry → Option StrategyRegistry
  | [], r => some r
  | name :: names, r =>
      match r.markValidated name overrideStatus with
      | none => applyOverrides setValidated names r
      | some r' => if setValidated name then applyOverrides setValidated names r' else none

/-- One pass of the activation of what is validated. -/
def activateValidated (name : String) (r : StrategyRegistry) : StrategyRegistry :=
  if (r.get? name).any (·.isValidated) then (r.activate name).getD r else r

/-- One pass of the loop of `_restore_strategies`. -/
def restoreStrategy (name : String) (r : StrategyRegistry) : StrategyRegistry :=
  match r.get? name with
  | none => r
  | some e =>
      if e.isValidated then (r.activate name).getD r
      else (r.deactivate name "recovery: validation gate failed on restart").getD r

/-- A loop over names. -/
def each (step : String → StrategyRegistry → StrategyRegistry) (names : List String)
    (r : StrategyRegistry) : StrategyRegistry :=
  names.foldl (fun r name => step name r) r

end StrategyRegistry

/-- The registry after the validations. -/
def StartupEnv.validated (env : StartupEnv) : StrategyRegistry :=
  let r₀ := StrategyRegistry.registerAll env.classes
  let r₁ := StrategyRegistry.each (.validate env.backtest) (r₀.pending false) r₀
  StrategyRegistry.each (.validateGrid env.gridBacktest) (r₁.pending true) r₁

/-- The registry after a start of the worker; `none` when the start fails. -/
def startup (env : StartupEnv) : Option StrategyRegistry :=
  (env.validated.applyOverrides env.setValidated env.overrides).map fun r =>
    StrategyRegistry.each .restoreStrategy (env.activeNames.getD [])
      (StrategyRegistry.each .activateValidated (r.entries.map Prod.fst) r)

/-! ### Entries but for the reason of a deactivation -/

/-- An entry with its validation replaced. -/
def RegisteredStrategy.marked (status : ValidationStatus) (e : RegisteredStrategy) :
    RegisteredStrategy :=
  { e with validationStatus := status, isValidated := status.canGoLive }

/-- An entry but for the reason of its deactivation. -/
def RegisteredStrategy.core (e : RegisteredStrategy) : RegisteredStrategy :=
  { e with deactivationReason := none }

namespace StrategyRegistry

/-- The entry of a name but for the reason of its deactivation. -/
def view (r : StrategyRegistry) (name : String) : Option RegisteredStrategy :=
  (r.get? name).map RegisteredStrategy.core

/-- A change of the entry of one name. -/
def ChangesOnly (name : String) (g : RegisteredStrategy → RegisteredStrategy)
    (r r' : StrategyRegistry) : Prop :=
  ∀ n, r'.view n = if n = name then (r.view n).map g else r.view n

section Steps

variable {r r' : StrategyRegistry} {name : String} {g : RegisteredStrategy → RegisteredStrategy}

theorem isActive_eq_view (r : StrategyRegistry) (n : String) :
    r.isActive n = (r.view n).any (·.isActive) := by
  rw [view, Option.any_map]
  rfl

theorem ChangesOnly.congr {g' : RegisteredStrategy → RegisteredStrategy}
    (h : ChangesOnly name g r r') (hg : ∀ e, r.view name = some e → g e = g' e) :
    ChangesOnly name g' r r' := by
  intro n
  rw [h]
  split
  next hn =>
    subst hn
    exact Option.map_congr hg
  next => rfl

theorem changesOnly_id (h : ∀ n, r'.view n = r.view n) : ChangesOnly name id r r' := by
  intro n
  rw [h, Option.map_id_fun, id_eq, ite_self]

theorem ChangesOnly.of_modify {f : RegisteredStrategy → RegisteredStrategy}
    (hfg : ∀ e : RegisteredStrategy, (f e).core = g e.core) :
    ChangesOnly name g r ((r.modify name f).getD r) := by
  cases h : r.modify name f with
  | none =>
      have hnone : r.get? name = none := by
        rw [← Option.not_isSome_iff_eq_none, ← isSome_modify_iff (f := f), h]
        exact Bool.false_ne_true
      refine (changesOnly_id fun n => rfl).congr fun e he => ?_
      rw [view, hnone] at he
      cases he
  | some r' =>
      intro n
      rw [Option.getD_some, view, get?_modify h]
      split
      next hn =>
        subst hn
        rw [Option.map_map, view, Option.map_map]
        exact congrArg (fun k => Option.map k (r.get? n)) (funext hfg)
      next => rfl

/-- The back-test of a strategy in a registry without active ones asks this strategy only, and
it leaves no trace but a reason. -/
theorem bracket_of_inactive {α : Type*} (hname : (r.get? name).isSome)
    (hrest : ∀ n, r.isActive n = false) (body : List String → Except String α) :
    ∃ r', r.bracket [name] body = (r', body [name]) ∧ ∀ n, r'.view n = r.view n := by
  have hnames : ∀ n ∈ [name], (r.get? n).isSome := by simpa using hname
  obtain ⟨r', asked, hbracket, hmem, hnodup, hget⟩ := bracket_eq hnames body
  have hasked : asked = [name] := by
    rw [← List.perm_singleton, List.perm_ext_iff_of_nodup hnodup (List.nodup_singleton name)]
    intro n
    simp [hmem, hrest]
  refine ⟨r', hasked ▸ hbracket, fun n => ?_⟩
  rw [view, hget, view]
  split
  · rw [Option.map_map]
    cases he : r.get? n with
    | none => rfl
    | some e =>
        have hoff := hrest n
        rw [isActive, he] at hoff
        have hbool : e.isActive = false := by simpa using hoff
        simp [RegisteredStrategy.core, RegisteredStrategy.bracketed, hbool]
  · rfl

/-- What the validation of a strategy does to its entry. -/
def afterBacktest : Except String ValidationReport → RegisteredStrategy → RegisteredStrategy
  | .error _, e => e
  | .ok report, e => e.marked (toValidationStatus report)

theorem isActive_afterBacktest (answer : Except String ValidationReport)
    (e : RegisteredStrategy) : (afterBacktest answer e).isActive = e.isActive := by
  cases answer <;> rfl

theorem afterBacktest_afterBacktest (answer : Except String ValidationReport)
    (e : RegisteredStrategy) :
    afterBacktest answer (afterBacktest answer e) = afterBacktest answer e := by
  cases answer <;> rfl

theorem ChangesOnly.validate {backtest : String → List String → Except String ValidationReport}
    (hrest : ∀ n, r.isActive n = false) :
    ChangesOnly name (afterBacktest (backtest name [name])) r (r.validate backtest name) := by
  cases hname : r.get? name with
  | none =>
      have hactivate : r.activate name = none := by
        rw [activate, modify, hname]
        rfl
      have hfails : r.bracket [name] (backtest name) = (r, .error "not registered") := by
        simp [bracket, activateAll, hrest name, hactivate]
      rw [StrategyRegistry.validate, hfails]
      refine (changesOnly_id fun n => rfl).congr fun e he => ?_
      rw [view, hname] at he
      cases he
  | some e =>
      obtain ⟨r', hbracket, hview⟩ :=
        bracket_of_inactive (by rw [hname]; rfl) hrest (backtest name)
      rw [StrategyRegistry.validate, hbracket]
      cases hanswer : backtest name [name] with
      | error text => exact (changesOnly_id hview).congr fun e he => rfl
      | ok report =>
          intro n
          have hmarked : ChangesOnly name (afterBacktest (.ok report)) r'
              ((r'.markValidated name (toValidationStatus report)).getD r') :=
            .of_modify fun _ => rfl
          rw [← hview n]
          exact hmarked n

/-- What the validation of a grid does to its entry. -/
def afterGridBacktest : Except String GridVerdict → RegisteredStrategy → RegisteredStrategy
  | .error _, e => e
  | .ok verdict, e => e.marked verdict.status

theorem afterGridBacktest_afterGridBacktest (answer : Except String GridVerdict)
    (e : RegisteredStrategy) :
    afterGridBacktest answer (afterGridBacktest answer e) = afterGridBacktest answer e := by
  cases answer <;> rfl

theorem ChangesOnly.validateGrid {gridBacktest : String → Except String GridVerdict} :
    ChangesOnly name (afterGridBacktest (gridBacktest name)) r
      (r.validateGrid gridBacktest name) := by
  rw [StrategyRegistry.validateGrid]
  cases gridBacktest name with
  | error text => exact (changesOnly_id fun n => rfl).congr fun e he => rfl
  | ok verdict => exact .of_modify fun _ => rfl

theorem ChangesOnly.override :
    ChangesOnly name (RegisteredStrategy.marked overrideStatus) r
      ((r.markValidated name overrideStatus).getD r) :=
  .of_modify fun _ => rfl

theorem ChangesOnly.activate :
    ChangesOnly name (fun e => { e with isActive := true }) r ((r.activate name).getD r) :=
  .of_modify fun _ => rfl

theorem ChangesOnly.deactivate {reason : String} :
    ChangesOnly name (fun e => { e with isActive := false }) r
      ((r.deactivate name reason).getD r) :=
  .of_modify fun _ => rfl

/-- The entry of a name agrees with its view on what is validated. -/
theorem isValidated_of_view {e e' : RegisteredStrategy} (hname : r.get? name = some e)
    (hview : r.view name = some e') : e'.isValidated = e.isValidated := by
  rw [view, hname, Option.map_some, Option.some_inj] at hview
  rw [← hview]
  rfl

theorem ChangesOnly.activateValidated :
    ChangesOnly name (fun e => { e with isActive := e.isActive || e.isValidated }) r
      (r.activateValidated name) := by
  rw [StrategyRegistry.activateValidated]
  cases hname : r.get? name with
  | none =>
      refine (changesOnly_id fun n => rfl).congr fun e he => ?_
      rw [view, hname] at he
      cases he
  | some e =>
      rw [Option.any_some]
      split
      next hvalidated =>
        refine ChangesOnly.activate.congr fun e' he' => ?_
        rw [isValidated_of_view hname he', hvalidated, Bool.or_true]
      next hvalidated =>
        refine (changesOnly_id fun n => rfl).congr fun e' he' => ?_
        have hoff : e'.isValidated = false :=
          (isValidated_of_view hname he').trans (eq_false_of_ne_true hvalidated)
        rw [show (e'.isActive || e'.isValidated) = e'.isActive by rw [hoff, Bool.or_false]]
        rfl

theorem ChangesOnly.restoreStrategy :
    ChangesOnly name (fun e => { e with isActive := e.isValidated }) r
      (r.restoreStrategy name) := by
  rw [StrategyRegistry.restoreStrategy]
  cases hname : r.get? name with
  | none =>
      refine (changesOnly_id fun n => rfl).congr fun e he => ?_
      rw [view, hname] at he
      cases he
  | some e =>
      dsimp only
      split
      next hvalidated =>
        refine ChangesOnly.activate.congr fun e' he' => ?_
        rw [isValidated_of_view hname he', hvalidated]
      next hvalidated =>
        refine ChangesOnly.deactivate.congr fun e' he' => ?_
        rw [isValidated_of_view hname he', eq_false_of_ne_true hvalidated]

theorem ChangesOnly.isActive_eq (h : ChangesOnly name g r r')
    (hg : ∀ e : RegisteredStrategy, (g e).isActive = e.isActive) (n : String) :
    r'.isActive n = r.isActive n := by
  rw [isActive_eq_view, isActive_eq_view, h]
  split
  · rw [Option.any_map]
    exact congrArg (fun p => Option.any p (r.view n)) (funext hg)
  · rfl

/-- A loop of steps that change the entry of their name only. -/
theorem view_each {step : String → StrategyRegistry → StrategyRegistry}
    {f : String → RegisteredStrategy → RegisteredStrategy} (I : StrategyRegistry → Prop)
    (hstep : ∀ name r, I r → I (step name r) ∧ ChangesOnly name (f name) r (step name r))
    (hidem : ∀ name e, f name (f name e) = f name e) (names : List String)
    {r : StrategyRegistry} (hr : I r) :
    I (each step names r) ∧ ∀ n, (each step names r).view n =
      if n ∈ names then (r.view n).map (f n) else r.view n := by
  induction names generalizing r with
  | nil => exact ⟨hr, fun n => by simp [each]⟩
  | cons name names ih =>
      obtain ⟨hnext, hchanges⟩ := hstep name r hr
      obtain ⟨hlast, hview⟩ := ih hnext
      refine ⟨hlast, fun n => ?_⟩
      change (each step names (step name r)).view n = _
      rw [hview, hchanges]
      by_cases hn : n = name
      · subst hn
        rw [if_pos rfl, if_pos List.mem_cons_self]
        split
        · rw [Option.map_map]
          exact congrArg (fun k => Option.map k (r.view n)) (funext (hidem n))
        · rfl
      · rw [if_neg hn]
        simp [hn]

theorem mem_pending {isGrid : Bool} {n : String} : n ∈ r.pending isGrid ↔
    ∃ e, r.view n = some e ∧ e.isValidated = false ∧ e.isGrid = isGrid := by
  rw [pending, List.mem_map]
  constructor
  · rintro ⟨⟨k, e⟩, he, rfl⟩
    obtain ⟨hmem, hpending⟩ := List.mem_filter.1 he
    simp only [Bool.and_eq_true, Bool.not_eq_true', beq_iff_eq] at hpending
    refine ⟨e.core, ?_, hpending.1, hpending.2⟩
    rw [view, (r.mem_entries_iff k e).1 hmem]
    rfl
  · rintro ⟨e, hview, hvalidated, hgrid⟩
    obtain ⟨e', hget, rfl⟩ := Option.map_eq_some_iff.1 hview
    refine ⟨(n, e'), List.mem_filter.2 ⟨(r.mem_entries_iff n e').2 hget, ?_⟩, rfl⟩
    simp only [Bool.and_eq_true, Bool.not_eq_true', beq_iff_eq]
    exact ⟨hvalidated, hgrid⟩

theorem mem_pending_of_view {isGrid : Bool} {n : String} {e : RegisteredStrategy}
    (h : r.view n = some e) :
    n ∈ r.pending isGrid ↔ e.isValidated = false ∧ e.isGrid = isGrid := by
  rw [mem_pending, h]
  simp

theorem mem_keys {n : String} : n ∈ r.entries.map Prod.fst ↔ (r.view n).isSome := by
  rw [view, Option.isSome_map, List.mem_map]
  constructor
  · rintro ⟨⟨k, e⟩, he, rfl⟩
    rw [(r.mem_entries_iff k e).1 he]
    rfl
  · intro h
    obtain ⟨e, he⟩ := Option.isSome_iff_exists.1 h
    exact ⟨(n, e), (r.mem_entries_iff n e).2 he, rfl⟩

end Steps

/-- The overrides succeed when the write for each registered strategy does, and they mark these
strategies. -/
theorem applyOverrides_eq (setValidated : String → Bool) (names : List String)
    (r : StrategyRegistry) : r.applyOverrides setValidated names =
      if ∀ name ∈ names, (r.view name).isSome → setValidated name = true then
        some (each (fun name r => (r.markValidated name overrideStatus).getD r) names r)
      else none := by
  induction names generalizing r with
  | nil => simp [applyOverrides, each]
  | cons name names ih =>
      have hchanges : ChangesOnly name (RegisteredStrategy.marked overrideStatus) r
          ((r.markValidated name overrideStatus).getD r) := .override
      have hsome : ∀ n, (((r.markValidated name overrideStatus).getD r).view n).isSome =
          (r.view n).isSome := by
        intro n
        rw [hchanges]
        split
        · rw [Option.isSome_map]
        · rfl
      have hregistered : (r.markValidated name overrideStatus).isSome = (r.view name).isSome := by
        rw [markValidated, modify, view, Option.isSome_map, Option.isSome_map]
      rw [applyOverrides]
      cases hmark : r.markValidated name overrideStatus with
      | none =>
          rw [hmark] at hregistered
          dsimp only
          rw [ih]
          have hhead : (r.view name).isSome ≠ true := by
            rw [← hregistered]
            exact Bool.false_ne_true
          simp only [List.forall_mem_cons, hhead, Bool.false_eq_true, false_imp_iff, true_and]
          simp only [each, List.foldl_cons, hmark, Option.getD_none]
      | some r' =>
          rw [hmark] at hregistered hsome
          dsimp only
          simp only [Option.getD_some] at hsome
          rw [ih]
          simp only [List.forall_mem_cons, ← hregistered, hsome, Option.isSome_some, true_imp_iff]
          by_cases hwrite : setValidated name = true
          · simp only [hwrite, if_true, true_and]
            simp only [each, List.foldl_cons, hmark, Option.getD_some]
          · simp only [hwrite, Bool.false_eq_true, false_and, if_false]

/-- What the decorators register is neither active nor validated. -/
theorem view_registerAll (classes : List (String × Bool × List MarketRegime)) (n : String) :
    (registerAll classes).view n = (classes.reverse.find? fun c => c.1 == n).map fun c =>
      { isGrid := c.2.1, supportedRegimes := c.2.2 } := by
  induction classes using List.reverseRecOn with
  | nil => rfl
  | append_singleton classes c ih =>
      rw [registerAll, List.foldl_append, List.foldl_cons, List.foldl_nil, register, view,
        Dict.get?_set, List.reverse_append, List.reverse_singleton, List.singleton_append,
        List.find?_cons]
      by_cases hn : n = c.1
      · subst hn
        simp [RegisteredStrategy.core]
      · have hbeq : (c.1 == n) = false := by simpa using Ne.symm hn
        rw [if_neg hn, hbeq]
        exact ih

end StrategyRegistry

namespace StartupEnv

variable (env : StartupEnv)

/-- The class of a name: the last one imported. -/
def classOf (name : String) : Option (Bool × List MarketRegime) :=
  (env.classes.reverse.find? fun c => c.1 == name).map Prod.snd

/-- The status that the validation of a strategy gives to it. -/
def answered (name : String) (isGrid : Bool) : ValidationStatus :=
  if isGrid then
    match env.gridBacktest name with
    | .error _ => {}
    | .ok v => v.status
  else
    match env.backtest name [name] with
    | .error _ => {}
    | .ok report => toValidationStatus report

/-- The status that a start gives to a strategy: that of the operator, or what the validation
of this strategy alone answers. -/
def verdict (name : String) (isGrid : Bool) : ValidationStatus :=
  if name ∈ env.overrides then overrideStatus else env.answered name isGrid

/-- An entry with a status that decides its activation. -/
def settled (status : ValidationStatus) (c : Bool × List MarketRegime) : RegisteredStrategy where
  isGrid := c.1
  supportedRegimes := c.2
  isActive := status.canGoLive
  isValidated := status.canGoLive
  validationStatus := status

/-- An entry with a status before the activations. -/
def waiting (status : ValidationStatus) (c : Bool × List MarketRegime) : RegisteredStrategy :=
  { settled status c with isActive := false }

theorem view_registerAll_eq (name : String) :
    (StrategyRegistry.registerAll env.classes).view name =
      (env.classOf name).map (waiting {}) := by
  rw [StrategyRegistry.view_registerAll, classOf, Option.map_map]
  rfl

theorem afterBacktest_waiting (name : String) (c : Bool × List MarketRegime) (hgrid : c.1 = false) :
    StrategyRegistry.afterBacktest (env.backtest name [name]) (waiting {} c) =
      waiting (env.answered name c.1) c := by
  rw [answered, if_neg (by simp [hgrid])]
  cases env.backtest name [name] <;> rfl

theorem afterGridBacktest_waiting (name : String) (c : Bool × List MarketRegime)
    (hgrid : c.1 = true) :
    StrategyRegistry.afterGridBacktest (env.gridBacktest name) (waiting {} c) =
      waiting (env.answered name c.1) c := by
  rw [answered, if_pos hgrid]
  cases env.gridBacktest name <;> rfl

open StrategyRegistry in
theorem view_backtested (name : String) :
    (each (.validate env.backtest) ((registerAll env.classes).pending false)
      (registerAll env.classes)).view name = (env.classOf name).map fun c =>
        waiting (if c.1 then {} else env.answered name c.1) c := by
  have hrest : ∀ n, (registerAll env.classes).isActive n = false := by
    intro n
    rw [isActive_eq_view, view_registerAll_eq, Option.any_map]
    cases env.classOf n <;> rfl
  have hstep : ∀ name r, (∀ n, StrategyRegistry.isActive r n = false) →
      (∀ n, StrategyRegistry.isActive (r.validate env.backtest name) n = false) ∧
        ChangesOnly name (afterBacktest (env.backtest name [name])) r
          (r.validate env.backtest name) := by
    intro name r hr
    have hchanges : ChangesOnly name (afterBacktest (env.backtest name [name])) r
        (r.validate env.backtest name) := .validate hr
    exact ⟨fun n => (hchanges.isActive_eq (isActive_afterBacktest _) n).trans (hr n), hchanges⟩
  obtain ⟨-, hview⟩ := view_each (f := fun n => afterBacktest (env.backtest n [n])) _ hstep
    (fun n => afterBacktest_afterBacktest _) ((registerAll env.classes).pending false) hrest
  have hregistered := env.view_registerAll_eq name
  rw [hview]
  cases hclass : env.classOf name with
  | none =>
      rw [hclass] at hregistered
      simp [hregistered]
  | some c =>
      rw [hclass] at hregistered
      have hmem := @mem_pending_of_view _ false _ _ hregistered
      rw [hregistered, Option.map_some, Option.map_some, Option.map_some]
      by_cases hgrid : c.1 = true
      · rw [if_neg (by simp [hmem, waiting, settled, hgrid]), if_pos hgrid]
      · rw [Bool.not_eq_true] at hgrid
        rw [if_pos (hmem.2 ⟨rfl, hgrid⟩), afterBacktest_waiting env name c hgrid,
          if_neg (by simp [hgrid])]

open StrategyRegistry in
/-- After the validations no strategy is active, and each has the answer about itself. -/
theorem view_validated (name : String) : env.validated.view name =
    (env.classOf name).map fun c => waiting (env.answered name c.1) c := by
  obtain ⟨-, hview⟩ := view_each (f := fun n => afterGridBacktest (env.gridBacktest n))
    (fun _ => True) (fun name r _ => ⟨trivial, .validateGrid⟩)
    (fun n => afterGridBacktest_afterGridBacktest _)
    ((each (.validate env.backtest) ((registerAll env.classes).pending false)
      (registerAll env.classes)).pending true) trivial
  have hbacktested := env.view_backtested name
  rw [validated, hview]
  cases hclass : env.classOf name with
  | none =>
      rw [hclass] at hbacktested
      simp [hbacktested]
  | some c =>
      rw [hclass, Option.map_some] at hbacktested
      have hmem := @mem_pending_of_view _ true _ _ hbacktested
      rw [hbacktested, Option.map_some, Option.map_some]
      by_cases hgrid : c.1 = true
      · rw [if_pos hgrid] at hmem ⊢
        rw [if_pos (hmem.2 ⟨rfl, hgrid⟩), afterGridBacktest_waiting env name c hgrid]
      · rw [if_neg (fun h => hgrid (hmem.1 h).2), if_neg hgrid]

open StrategyRegistry in
/-- The overrides give their status to the registered strategies that they name. -/
theorem view_overridden (name : String) :
    (each (fun name r => (r.markValidated name overrideStatus).getD r) env.overrides
      env.validated).view name = (env.classOf name).map fun c =>
        waiting (env.verdict name c.1) c := by
  obtain ⟨-, hview⟩ := view_each (f := fun _ => RegisteredStrategy.marked overrideStatus)
    (fun _ => True) (fun name r _ => ⟨trivial, .override⟩) (fun n e => rfl) env.overrides
    (r := env.validated) trivial
  rw [hview, view_validated]
  simp only [verdict]
  split
  · rw [Option.map_map]
    rfl
  · rfl

open StrategyRegistry in
/-- What is validated is active after the activations and the recovery, and nothing else. -/
theorem view_started {r : StrategyRegistry} {name : String} (names : List String)
    (hrest : ∀ e, r.view name = some e → e.isActive = false) :
    (each .restoreStrategy names
      (each .activateValidated (r.entries.map Prod.fst) r)).view name =
        (r.view name).map fun e => { e with isActive := e.isValidated } := by
  obtain ⟨-, hactivated⟩ := view_each
    (f := fun _ e => { e with isActive := e.isActive || e.isValidated })
    (fun _ => True) (fun name r _ => ⟨trivial, .activateValidated⟩)
    (fun n e => by simp) (r.entries.map Prod.fst) (r := r) trivial
  obtain ⟨-, hrestored⟩ := view_each (f := fun _ e => { e with isActive := e.isValidated })
    (fun _ => True) (fun name r _ => ⟨trivial, .restoreStrategy⟩) (fun n e => rfl) names
    (r := each .activateValidated (r.entries.map Prod.fst) r) trivial
  rw [hrestored, hactivated]
  cases hview : r.view name with
  | none => simp
  | some e =>
      have hmem : name ∈ r.entries.map Prod.fst := mem_keys.2 (by rw [hview]; rfl)
      rw [if_pos hmem, Option.map_some, Option.map_some, Option.map_some, hrest e hview]
      split <;> rfl

end StartupEnv

open StrategyRegistry in
theorem startup_eq (env : StartupEnv) : startup env =
    if ∀ name ∈ env.overrides, (env.classOf name).isSome → env.setValidated name = true then
      let r := each (fun name r => (r.markValidated name overrideStatus).getD r) env.overrides
        env.validated
      some (each .restoreStrategy (env.activeNames.getD [])
        (each .activateValidated (r.entries.map Prod.fst) r))
    else none := by
  rw [startup, applyOverrides_eq]
  simp only [env.view_validated, Option.isSome_map]
  split <;> rfl

/-- The entries after a start. -/
theorem view_of_startup {env : StartupEnv} {r : StrategyRegistry} (h : startup env = some r)
    (name : String) :
    r.view name = (env.classOf name).map fun c => StartupEnv.settled (env.verdict name c.1) c := by
  rw [startup_eq] at h
  split at h
  · cases h
    rw [StartupEnv.view_started, env.view_overridden, Option.map_map]
    · rfl
    · intro e he
      rw [env.view_overridden] at he
      obtain ⟨c, -, rfl⟩ := Option.map_eq_some_iff.1 he
      rfl
  · cases h

theorem isActive_of_startup {env : StartupEnv} {r : StrategyRegistry}
    (hstart : startup env = some r) {name : String} :
    r.isActive name = (env.classOf name).any fun c => (env.verdict name c.1).canGoLive := by
  rw [StrategyRegistry.isActive_eq_view, view_of_startup hstart, Option.any_map]
  rfl

/-- A start of the worker fails only when the write of an override fails. After it the entry of
each strategy is decided by its own class, its own validation and the operator, whatever earlier
runs and the API have left in the database: active and validated are the same. -/
theorem view_startup (env : StartupEnv) :
    ((startup env).isSome ↔ ∀ name ∈ env.overrides,
      (env.classOf name).isSome → env.setValidated name = true) ∧
    ∀ r, startup env = some r → ∀ name, r.view name =
      (env.classOf name).map fun c => StartupEnv.settled (env.verdict name c.1) c := by
  refine ⟨?_, fun r hr => view_of_startup hr⟩
  rw [startup_eq]
  split
  next hwrites => exact iff_of_true rfl hwrites
  next hfails => exact iff_of_false Bool.false_ne_true hfails

/-- A start with a strategy whose walk-forward fails, one whose history does not load and that
the operator overrides, and a grid that is not confirmed outside of its sample; the rows of all
three are active. -/
def restartedWorker : StartupEnv where
  classes := [("trend", false, []), ("momentum", false, []), ("grid", true, [])]
  backtest name asked :=
    if name = "trend" ∧ asked = ["trend"] then .ok ⟨true, some false⟩ else .error "no history"
  gridBacktest _ := .ok (.measured true (some false))
  overrides := ["momentum", "unknown"]
  setValidated name := name == "momentum"
  activeNames := some ["grid", "trend", "momentum", "removed"]

/-- The operator's strategy is active after the start, and the rows do not bring back others. -/
theorem view_startup_restartedWorker : ∃ r, startup restartedWorker = some r ∧
    (r.view "momentum").map (·.isActive) = some true ∧
      (r.view "trend").map (·.isActive) = some false ∧
        (r.view "grid").map (·.isActive) = some false := by
  obtain ⟨hstarts, hview⟩ := view_startup restartedWorker
  obtain ⟨r, hr⟩ := Option.isSome_iff_exists.1 (hstarts.2 (by decide +kernel))
  refine ⟨r, hr, ?_, ?_, ?_⟩
  all_goals
    rw [hview r hr]
    decide +kernel

end Sgr
