import Sgr.Collection.Dict
import Sgr.Grid.Tasks

/-!
# Deactivating a symbol

`SymbolKillSwitch` of `sgr/risk/symbol_kill_switch.py` beside the calls that ask it: the
ticks and closes of the grids of a `GridController`, `open_grid`, and the cycles of
`sgr/orchestrator/engine.py`. A tick and a cycle ask once, before their first suspension.

`stopped` and `submitted` are ghosts: the symbols for which `deactivate` has returned and
`activate` has not been called since, and the orders that went to the execution engine.
-/

open Collection Concurrency

namespace Sgr

/-- The key of a symbol in the kill switch. -/
def Symbol.switchKey (s : Symbol) : String := s.exchange.value ++ ":" ++ s.ccxtSymbol

/-- The set-up of the kill switch and of the grid controller. -/
structure SwitchConfig where
  grid : GridConfig
  /-- `_repo` of the kill switch is given. -/
  repository : Bool
  /-- `close_all_grids_for_symbol` is registered as a hook. -/
  hooked : Bool
  /-- `open_grid` asks the exchange for the modes of the account. -/
  live : Bool

/-- An order that goes to the execution engine. -/
structure SubmittedOrder where
  key : String
  /-- The order opens exposure. -/
  opens : Bool
  /-- The symbol was stopped. -/
  whileStopped : Bool

/-- What the calls share. -/
structure SwitchShared where
  /-- The symbols that are not active. -/
  inactive : String → Bool
  /-- `_grids`. -/
  grids : Dict UUID GridShared
  stopped : String → Bool
  /-- The orders, newest first. -/
  submitted : List SubmittedOrder

/-- A call. -/
inductive SwitchJob
  /-- A call on a grid of the registry. -/
  | grid (id : UUID) (job : GridJob)
  | openGrid (plan : GridPlan) (gate : Option LiveVerificationState)
  | deactivate (key reason : String)
  | activate (key : String)
  /-- `run_cycle`. -/
  | cycle (key : String)

/-- The control points of a call. -/
inductive SwitchPc
  | idle
  | grid (id : UUID) (pc : GridPc)
  /-- `open_grid` asks the exchange. -/
  | opening
  /-- `_persist` of `deactivate`. -/
  | deactivating
  /-- The hook of `deactivate` closes a grid; the others are still to come. -/
  | closing (id : UUID) (pc : GridPc) (rest : List UUID)
  /-- `_persist` of `activate`. -/
  | activating
  /-- A cycle that has found its symbol active. -/
  | checked
  /-- A cycle whose order is at the execution engine. -/
  | executing
  | done

/-- What a call waits for. -/
inductive SwitchEvent
  /-- The call is made; the flag is what the checks of `open_grid` say. -/
  | called (approved : Bool)
  | grid (e : GridEvent)
  /-- The account has been asked. -/
  | asked (approved : Bool)
  | persisted
  /-- The cycle has an approved order for its symbol; the flag says whether it opens
  exposure. -/
  | approved (opens : Bool)
  /-- The cycle ends. -/
  | ended

/-- An event, with the id of the next order and the time. -/
structure SwitchWake where
  event : SwitchEvent
  id : UUID := 0
  now : Timestamp := 0

namespace SwitchShared

variable (cfg : SwitchConfig)

/-- An order goes to the execution engine. -/
def submit (s : SwitchShared) (key : String) (opens : Bool) : SwitchShared :=
  { s with submitted := ⟨key, opens, s.stopped key⟩ :: s.submitted }

/-- A grid after a segment of a call on it. -/
def putGrid (s : SwitchShared) (id : UUID) (c : GridShared × GridPc) : SwitchShared :=
  let t := { s with grids := s.grids.set id c.1 }
  match c.2 with
  | .executing _ o _ => t.submit o.symbol.switchKey (!o.reduceOnly)
  | _ => t

/-- The end of `deactivate`. -/
def deactivated (s : SwitchShared) (key : String) : SwitchShared × SwitchPc :=
  ({ s with stopped := Function.update s.stopped key true }, .done)

/-- The loop of `close_all_grids_for_symbol`, and the end of `deactivate`. -/
def closeAll (key reason : String) (id : UUID) (now : Timestamp) :
    SwitchShared → List UUID → SwitchShared × SwitchPc
  | s, [] => s.deactivated key
  | s, g :: rest =>
      match s.grids.get? g with
      | none => closeAll key reason id now s rest
      | some t =>
          if t.grid.isActive = true ∧
              t.grid.exchange.value ++ ":" ++ t.grid.symbol.ccxtSymbol = key then
            match t.grid.lastPrice with
            | none => closeAll key reason id now s rest
            | some price =>
                let c := t.close cfg.grid id now ("symbol_kill_switch:" ++ reason) price true
                match c.2 with
                | .returned => closeAll key reason id now (s.putGrid g c) rest
                | pc => (s.putGrid g c, .closing g pc rest)
          else closeAll key reason id now s rest

/-- The hooks of `deactivate`. -/
def runHooks (s : SwitchShared) (key reason : String) (id : UUID) (now : Timestamp) :
    SwitchShared × SwitchPc :=
  if cfg.hooked then closeAll cfg key reason id now s (s.grids.entries.map Prod.fst)
  else s.deactivated key

/-- `open_grid` after its checks. The id of a new grid is fresh. -/
def register (s : SwitchShared) (plan : GridPlan) (gate : Option LiveVerificationState)
    (approved : Bool) (id : UUID) (now : Timestamp) : Option (SwitchShared × SwitchPc) :=
  if approved then
    match s.grids.get? plan.id with
    | some _ => none
    | none =>
        let c := gridCall cfg.grid .opened id now ⟨⟨buildGridState plan, gate⟩, [], none, []⟩
          false
        some (s.putGrid plan.id c, .grid plan.id c.2)
  else some (s, .done)

end SwitchShared

/-- A call up to its first suspension. -/
def switchCall (cfg : SwitchConfig) (s : SwitchShared) (approved : Bool) (id : UUID)
    (now : Timestamp) : SwitchJob → Option (SwitchShared × SwitchPc)
  | .grid g job =>
      match s.grids.get? g with
      | none => some (s, .done)
      | some t =>
          let c := gridCall cfg.grid job id now t (s.inactive t.grid.symbol.switchKey)
          some (s.putGrid g c, .grid g c.2)
  | .openGrid plan gate =>
      if s.inactive plan.symbol.switchKey then some (s, .done)
      else if cfg.live then some (s, .opening)
      else s.register cfg plan gate approved id now
  | .deactivate key reason =>
      let t := { s with inactive := Function.update s.inactive key true }
      some (if cfg.repository then (t, .deactivating) else t.runHooks cfg key reason id now)
  | .activate key =>
      let t := { s with stopped := Function.update s.stopped key false }
      if s.inactive key then
        some ({ t with inactive := Function.update s.inactive key false },
          if cfg.repository then .activating else .done)
      else some (t, .done)
  | .cycle key => some (s, if s.inactive key then .done else .checked)

/-- A call from one suspension to the next. Once a call on a grid is under way, it is no
matter which one it is. -/
def switchSegment (cfg : SwitchConfig) (job : SwitchJob) :
    Segment SwitchShared SwitchPc SwitchWake := fun s pc w =>
  match pc, job, w.event with
  | .idle, job, .called approved => switchCall cfg s approved w.id w.now job
  | .grid g pc, _, .grid e =>
      (s.grids.get? g).bind fun t =>
        (gridSegment cfg.grid .opened t pc ⟨e, w.id, w.now⟩).map fun c =>
          (s.putGrid g c, .grid g c.2)
  | .opening, .openGrid plan gate, .asked approved =>
      s.register cfg plan gate approved w.id w.now
  | .deactivating, .deactivate key reason, .persisted =>
      some (s.runHooks cfg key reason w.id w.now)
  | .closing g pc rest, .deactivate key reason, .grid e =>
      (s.grids.get? g).bind fun t =>
        (gridSegment cfg.grid .opened t pc ⟨e, w.id, w.now⟩).map fun c =>
          match c.2 with
          | .returned => (s.putGrid g c).closeAll cfg key reason w.id w.now rest
          -- the exception of a hook is swallowed
          | .raised => (s.putGrid g c).deactivated key
          | pc => (s.putGrid g c, .closing g pc rest)
  | .activating, _, .persisted => some (s, .done)
  | .checked, .cycle key, .approved opens => some (s.submit key opens, .executing)
  | .checked, _, .ended => some (s, .done)
  | .executing, _, .ended => some (s, .done)
  | _, _, _ => none

/-- The calls beside one kill switch. -/
abbrev switchMachine {ι : Type*} [DecidableEq ι] (cfg : SwitchConfig) (job : ι → SwitchJob) :
    Machine (Pool ι SwitchShared SwitchPc) (ι × SwitchWake) :=
  Pool.machine fun i => switchSegment cfg (job i)

/-- Every symbol is active, and there are no grids. -/
def switchStart {ι : Type*} : Pool ι SwitchShared SwitchPc where
  shared := ⟨fun _ => false, Dict.empty, fun _ => false, []⟩
  task _ := .idle

end Sgr
