import Mathlib.Data.Fintype.Basic
import Sgr.Risk.SymbolKillSwitch

/-!
# What a deactivated symbol can still open

`deactivate` does not wait for the ticks and the cycles that have found the symbol active,
and `activate` can undo it before it returns. Where neither is the case, no order that
opens exposure of the symbol goes to the execution engine before `activate` is called.
-/

open Collection Concurrency

namespace Sgr

/-- No order that opens exposure was submitted while its symbol was stopped. -/
def StopsOpening (s : SwitchShared) : Prop :=
  ∀ x ∈ s.submitted, x.opens = true → x.whileStopped = false

/-! ### Calls that can still open -/

/-- An opening order waits for the rate limiter. -/
def GridPc.waitsToOpen : GridPc → Bool
  | .limiting f _ _ => f.opening
  | _ => false

/-- An opening order waits for the rate limiter, or the loop can open a further level. -/
def GridPc.mayOpen (pc : GridPc) : Bool :=
  pc.waitsToOpen || pc.frame.any fun k => k.loop.opens && !k.rest.isEmpty

/-- The call has found the symbol active and can still submit an order that opens exposure
of it. -/
def SwitchPc.mayOpen (s : SwitchShared) (key : String) (job : SwitchJob) : SwitchPc → Bool
  | .grid g pc =>
      (s.grids.get? g).any (fun t => t.grid.symbol.switchKey = key) && pc.mayOpen
  | .checked =>
      match job with
      | .cycle key' => key' = key
      | _ => false
  | _ => false

/-- The symbol that a call deactivates. -/
def SwitchJob.deactivates : SwitchJob → Option String
  | .deactivate key _ => some key
  | _ => none

def SwitchPc.isDone : SwitchPc → Bool
  | .done => true
  | _ => false

section Condition

variable {ι : Type*} [DecidableEq ι] (cfg : SwitchConfig) (job : ι → SwitchJob)

/-- `deactivate` returns while the symbol is not active and no call can still open exposure
of it. -/
def DeactivatesLast (P : Pool ι SwitchShared SwitchPc) (a : ι × SwitchWake) : Prop :=
  ∀ key ∈ (job a.1).deactivates, ∀ Q ∈ (switchMachine cfg job).next P a,
    (Q.task a.1).isDone = true → Q.shared.inactive key = true ∧
      ∀ j, (Q.task j).mayOpen Q.shared key (job j) = false

instance [Fintype ι] (P : Pool ι SwitchShared SwitchPc) (a : ι × SwitchWake) :
    Decidable (DeactivatesLast cfg job P a) :=
  inferInstanceAs (Decidable (∀ key ∈ (job a.1).deactivates,
    ∀ Q ∈ (switchMachine cfg job).next P a,
      (Q.task a.1).isDone = true → Q.shared.inactive key = true ∧
        ∀ j, (Q.task j).mayOpen Q.shared key (job j) = false))

end Condition

/-! ### Calls on one grid -/

/-- The orders of a call are for the symbol of its grid, and only closing orders are
reduce-only. -/
def GridPc.OrdersFor (symbol : Symbol) (pc : GridPc) : Prop :=
  ∀ f o k, pc = .limiting f o k ∨ pc = .executing f o k →
    o.symbol = symbol ∧ o.reduceOnly = !f.opening

/-- The call does not open a level and will not. -/
structure GridPc.Withholds (pc : GridPc) : Prop where
  mayOpen : pc.mayOpen = false
  executing : ∀ f o k, pc = .executing f o k → f.opening = false

section Grids

variable {cfg : GridConfig} {id : UUID} {now : Timestamp} {s t : GridShared} {pc pc' : GridPc}

/-- The call has made an order that is not answered. -/
def GridPc.isOrdering : GridPc → Bool
  | .limiting _ _ _ => true
  | .executing _ _ _ => true
  | _ => false

theorem GridPc.ordersFor_of_not_ordering {symbol : Symbol} (h : pc.isOrdering = false) :
    pc.OrdersFor symbol := by
  rintro f o k (rfl | rfl)
  · cases h
  · cases h

theorem GridPc.withholds_of_not_ordering (h : pc.isOrdering = false)
    (hframe : ∀ k ∈ pc.frame, k.loop.opens = false ∨ k.rest = []) : pc.Withholds where
  mayOpen := by
    have hloop : (pc.frame.any fun k => k.loop.opens && !k.rest.isEmpty) = false := by
      cases hk : pc.frame with
      | none => rfl
      | some k =>
          rcases hframe k hk with hopens | hrest
          · simp [hopens]
          · simp [hrest]
    rw [GridPc.mayOpen, hloop, Bool.or_false]
    cases pc <;> first | rfl | cases h
  executing := by
    rintro f o k rfl
    cases h

theorem GridPc.opens_of_mem_frame {k : GridFrame} (h : pc.mayOpen = false)
    (hk : k ∈ pc.frame) : k.loop.opens = false ∨ k.rest = [] := by
  rw [GridPc.mayOpen, Bool.or_eq_false_iff, Option.mem_def.1 hk, Option.any_some] at h
  cases hopens : k.loop.opens with
  | false => exact .inl rfl
  | true =>
      right
      simpa [hopens] using h.2

/-- An order for a level is for the symbol of the grid. -/
theorem LevelFill.order_eq_some {f : LevelFill} {g : GridState} {o : OrderRequest}
    (h : f.order g id = some o) : o.symbol = g.symbol ∧ o.reduceOnly = !f.opening := by
  obtain ⟨l, -, ho⟩ := Option.bind_eq_some_iff.1 h
  obtain ⟨quantity, -, rfl⟩ := Option.map_eq_some_iff.1 ho
  exact ⟨rfl, rfl⟩

/-- What a segment keeps: the symbol of the grid, and that the call does not open when it
is held to that. -/
structure GridHolds (s : GridShared) (held : Prop) (c : GridShared × GridPc) : Prop where
  symbol : c.1.grid.symbol = s.grid.symbol
  called : c.2 ≠ .idle
  orders : c.2.OrdersFor s.grid.symbol
  withholds : held → c.2.Withholds

theorem GridHolds.of_not_ordering {held : Prop} (hsymbol : t.grid.symbol = s.grid.symbol)
    (hcalled : pc ≠ .idle) (h : pc.isOrdering = false)
    (hframe : held → ∀ k ∈ pc.frame, k.loop.opens = false ∨ k.rest = []) :
    GridHolds s held (t, pc) :=
  ⟨hsymbol, hcalled, GridPc.ordersFor_of_not_ordering h,
    fun hheld => GridPc.withholds_of_not_ordering h (hframe hheld)⟩

/-- A call that makes an order in a loop. -/
theorem GridHolds.of_ordering {held : Prop} {f : LevelFill} {o : OrderRequest} {k : GridFrame}
    (hpc : pc = .limiting f o k ∨ pc = .executing f o k)
    (horder : o.symbol = s.grid.symbol ∧ o.reduceOnly = !f.opening)
    (hheld : held → f.opening = false ∧ (k.loop.opens = false ∨ k.rest = [])) :
    GridHolds s held (s, pc) := by
  refine ⟨rfl, ?_, ?_, fun h => ?_⟩
  · rintro rfl
    rcases hpc with hpc | hpc <;> cases hpc
  · rintro f' o' k' hpc'
    rcases hpc with rfl | rfl <;> rcases hpc' with hpc' | hpc' <;> cases hpc' <;>
      exact horder
  · obtain ⟨hopening, hloop⟩ := hheld h
    have hany : (k.loop.opens && !k.rest.isEmpty) = false := by
      rcases hloop with hopens | hrest
      · simp [hopens]
      · simp [hrest]
    rcases hpc with rfl | rfl
    · exact ⟨by simp [GridPc.mayOpen, GridPc.waitsToOpen, GridPc.frame, hopening, hany],
        fun f' o' k' hpc' => nomatch hpc'⟩
    · refine ⟨by simp [GridPc.mayOpen, GridPc.waitsToOpen, GridPc.frame, hany], ?_⟩
      intro f' o' k' hpc'
      cases hpc'
      exact hopening

theorem gridHolds_advance (cfg : GridConfig) (id : UUID) (now : Timestamp) (s : GridShared)
    (loop : GridLoop) (cells : List (ℕ × ℕ)) :
    GridHolds s (loop.opens = false ∨ cells = []) (s.advance cfg id now loop cells) := by
  induction cells with
  | nil =>
      rw [GridShared.advance]
      have hsymbol : (s.setGrid (loop.finish now s.grid)).grid.symbol = s.grid.symbol := by
        cases loop <;> rfl
      split
      · exact .of_not_ordering hsymbol (fun h => nomatch h) rfl fun _ k hk => nomatch hk
      · exact .of_not_ordering hsymbol (fun h => nomatch h) rfl fun _ k hk => nomatch hk
  | cons cell rest ih =>
      rw [GridShared.advance]
      split
      · refine ⟨ih.symbol, ih.called, ih.orders, fun h => ih.withholds ?_⟩
        exact .inl (h.resolve_right (List.cons_ne_nil cell rest))
      next f o hsome =>
        obtain ⟨f, hf, ho⟩ := Option.bind_eq_some_iff.1 hsome
        obtain ⟨o, ho, hpair⟩ := Option.map_eq_some_iff.1 ho
        cases hpair
        refine .of_ordering (k := ⟨loop, rest⟩) ?_ (LevelFill.order_eq_some ho) fun h => ?_
        · split
          · exact .inl rfl
          · exact .inr rfl
        · have hopens := h.resolve_right (List.cons_ne_nil cell rest)
          exact ⟨(GridLoop.fill_eq_some hf).2 hopens, .inl hopens⟩

theorem GridHolds.advance {held : Prop} (hsymbol : t.grid.symbol = s.grid.symbol)
    {loop : GridLoop} {cells : List (ℕ × ℕ)} (h : held → loop.opens = false ∨ cells = []) :
    GridHolds s held (t.advance cfg id now loop cells) := by
  have hholds := gridHolds_advance cfg id now t loop cells
  exact ⟨hholds.symbol.trans hsymbol, hholds.called, hsymbol ▸ hholds.orders,
    fun hheld => hholds.withholds (h hheld)⟩

theorem gridHolds_close (cfg : GridConfig) (id : UUID) (now : Timestamp) (s : GridShared)
    (held : Prop) (reason : String) (price : ℚ) (force : Bool) :
    GridHolds s held (s.close cfg id now reason price force) := by
  unfold GridShared.close
  split
  · have hsymbol : (s.setGrid { s.grid with status := .closing }).grid.symbol =
        s.grid.symbol := rfl
    exact .advance hsymbol fun _ => .inl rfl
  · exact .of_not_ordering rfl (fun h => nomatch h) rfl fun _ k hk => nomatch hk

theorem gridHolds_tick (blocked : Bool) (price : ℚ) :
    GridHolds s (blocked = true) (s.tick cfg id now blocked price) := by
  unfold GridShared.tick
  split
  · exact .advance rfl fun h => .inl (by rw [GridLoop.opens, h]; rfl)
  · exact .of_not_ordering rfl (fun h => nomatch h) rfl fun _ k hk => nomatch hk

theorem gridHolds_opened (cfg : GridConfig) (id : UUID) (now : Timestamp) (s : GridShared)
    (held : Prop) (blocked : Bool) :
    GridHolds s held (gridCall cfg .opened id now s blocked) := by
  unfold gridCall
  dsimp only
  split
  · exact .of_not_ordering rfl (fun h => nomatch h) rfl fun _ k hk => nomatch hk
  · exact .of_not_ordering rfl (fun h => nomatch h) rfl fun _ k hk => nomatch hk

/-- A call on a grid of a symbol that is not active does not open a level. -/
theorem gridHolds_call (job : GridJob) (blocked : Bool) :
    GridHolds s (blocked = true) (gridCall cfg job id now s blocked) := by
  cases job with
  | opened => exact gridHolds_opened cfg id now s _ blocked
  | tick price => exact gridHolds_tick blocked price
  | close reason price force => exact gridHolds_close cfg id now s _ reason price force
  | monitor price violated =>
      unfold gridCall
      dsimp only
      split
      · split
        · exact gridHolds_close cfg id now s _ _ price true
        · exact gridHolds_tick blocked price
      · exact .of_not_ordering rfl (fun h => nomatch h) rfl fun _ k hk => nomatch hk

theorem symbol_book (s : GridShared) (f : LevelFill) (quantity : ℚ) (r : OrderResult)
    (filledAt : Timestamp) :
    (s.book f quantity r filledAt).grid.symbol = s.grid.symbol := by
  unfold GridShared.book
  split
  · rfl
  · cases f.opening <;> rfl

theorem gridHolds_afterRecord {f : LevelFill} {r : OrderResult} {quantity : ℚ}
    {filledAt : Timestamp} {k : GridFrame} (hk : pc.frame = some k) :
    GridHolds s (pc.mayOpen = false) (s.afterRecord cfg id now f r quantity filledAt k) := by
  unfold GridShared.afterRecord
  split
  · refine .of_not_ordering (symbol_book s f quantity r filledAt) (fun h => nomatch h) rfl ?_
    intro h k' hk'
    cases hk'
    exact GridPc.opens_of_mem_frame h hk
  · have hsymbol : ((s.book f quantity r filledAt).setGrid
        (updateMarkToMarket (s.book f quantity r filledAt).grid f.price)).grid.symbol =
          s.grid.symbol := symbol_book s f quantity r filledAt
    exact .advance hsymbol fun h => GridPc.opens_of_mem_frame h hk

/-- A call that does not open goes on so. -/
theorem gridHolds_segment {job : GridJob} {w : GridWake}
    (hseg : gridSegment cfg job s pc w = some (t, pc')) (hcalled : pc ≠ .idle)
    (horders : pc.OrdersFor s.grid.symbol) : GridHolds s (pc.mayOpen = false) (t, pc') := by
  have hstep := gridStep_of_segment hseg
  generalize w.event = e at hstep
  have hsame : ∀ {pc₁ : GridPc} {t : GridShared}, t.grid.symbol = s.grid.symbol →
      pc₁ ≠ .idle → pc₁.isOrdering = false →
      (∀ k ∈ pc₁.frame, k ∈ pc.frame) → GridHolds s (pc.mayOpen = false) (t, pc₁) :=
    fun hsymbol hne hordering hframe =>
      .of_not_ordering hsymbol hne hordering fun h k hk => GridPc.opens_of_mem_frame h (hframe k hk)
  cases hstep with
  | starts => exact absurd rfl hcalled
  | admits f o k =>
      refine .of_ordering (.inr rfl) (horders f o k (.inl rfl)) fun h => ⟨?_, ?_⟩
      · rw [GridPc.mayOpen, Bool.or_eq_false_iff] at h
        exact h.1
      · exact GridPc.opens_of_mem_frame h rfl
  | raises => exact hsame rfl (fun h => nomatch h) rfl fun k hk => nomatch hk
  | leaves hgives hframe => exact .advance rfl fun h => GridPc.opens_of_mem_frame h hframe
  | fills => exact hsame rfl (fun h => nomatch h) rfl fun k hk => hk
  | records => exact hsame rfl (fun h => nomatch h) rfl fun k hk => hk
  | forgets => exact hsame rfl (fun h => nomatch h) rfl fun k hk => hk
  | books => exact gridHolds_afterRecord rfl
  | booksUnrecorded => exact gridHolds_afterRecord rfl
  | reads n => exact hsame rfl (fun h => nomatch h) rfl (by cases n <;> exact fun k hk => hk)
  | stores row n =>
      exact hsame rfl (fun h => nomatch h) rfl (by cases n <;> exact fun k hk => hk)
  | unread n => exact hsame rfl (fun h => nomatch h) rfl (by cases n <;> exact fun k hk => hk)
  | unstored row n =>
      exact hsame rfl (fun h => nomatch h) rfl (by cases n <;> exact fun k hk => hk)
  | resumes f k =>
      have hsymbol : (s.setGrid (updateMarkToMarket s.grid f.price)).grid.symbol =
          s.grid.symbol := rfl
      exact .advance hsymbol fun h => GridPc.opens_of_mem_frame h rfl
  | returns => exact hsame rfl (fun h => nomatch h) rfl fun k hk => nomatch hk

end Grids

/-! ### What a segment does -/

/-- The state after a segment, for the calls that are under way. -/
structure SwitchShared.Leads (s t : SwitchShared) : Prop where
  grids : ∀ g x, s.grids.get? g = some x →
    ∃ y, t.grids.get? g = some y ∧ y.grid.symbol = x.grid.symbol
  stopped : ∀ key, t.stopped key = true → s.stopped key = true
  off : (∀ key, s.stopped key = true → s.inactive key = true) →
    ∀ key, t.stopped key = true → t.inactive key = true
  submitted : StopsOpening s → StopsOpening t

/-- A call on a grid of the registry that has been made. -/
structure GridPc.Runs (s : SwitchShared) (g : UUID) (pc : GridPc) (x : GridShared) : Prop where
  get? : s.grids.get? g = some x
  called : pc ≠ .idle
  orders : pc.OrdersFor x.grid.symbol

/-- The call opens nothing of a symbol that is stopped. -/
def SwitchPc.Sound (s : SwitchShared) (job : SwitchJob) : SwitchPc → Prop
  | .grid g pc => ∃ x, pc.Runs s g x ∧
      (s.stopped x.grid.symbol.switchKey = true → pc.mayOpen = false)
  | .closing g pc _ => ∃ x, pc.Runs s g x ∧ pc.mayOpen = false
  | .checked => ∀ key, job = .cycle key → s.stopped key = false
  | _ => True

/-- What a segment leads to: the call goes on, or it is `deactivate` and returns. -/
inductive SwitchResult (s : SwitchShared) (job : SwitchJob) :
    SwitchShared × SwitchPc → Prop
  | goesOn {t : SwitchShared} {pc : SwitchPc} (hleads : s.Leads t) (hpc : pc.Sound t job) :
      SwitchResult s job (t, pc)
  | stops {t : SwitchShared} {key : String} (hkey : job.deactivates = some key)
      (hleads : s.Leads t) : SwitchResult s job (t.deactivated key)

section Segments

variable {cfg : SwitchConfig} {job : SwitchJob} {s t u : SwitchShared} {id : UUID}
  {now : Timestamp}

theorem SwitchShared.Leads.refl (s : SwitchShared) : s.Leads s :=
  ⟨fun _ x hx => ⟨x, hx, rfl⟩, fun _ h => h, fun h => h, fun h => h⟩

theorem SwitchShared.Leads.trans (h : s.Leads t) (h' : t.Leads u) : s.Leads u where
  grids := fun g x hx => by
    obtain ⟨y, hy, hxy⟩ := h.grids g x hx
    obtain ⟨z, hz, hyz⟩ := h'.grids g y hy
    exact ⟨z, hz, hyz.trans hxy⟩
  stopped := fun key hkey => h.stopped key (h'.stopped key hkey)
  off := fun hoff => h'.off (h.off hoff)
  submitted := fun hs => h'.submitted (h.submitted hs)

theorem SwitchResult.of_leads {c : SwitchShared × SwitchPc} (h : s.Leads t)
    (hc : SwitchResult t job c) : SwitchResult s job c := by
  cases hc with
  | goesOn hleads hpc => exact .goesOn (h.trans hleads) hpc
  | stops hkey hleads => exact .stops hkey (h.trans hleads)

theorem SwitchPc.Sound.of_leads {pc : SwitchPc} (hpc : pc.Sound s job) (h : s.Leads t) :
    pc.Sound t job := by
  cases pc with
  | grid g pc =>
      obtain ⟨x, hruns, hopens⟩ := hpc
      obtain ⟨y, hy, hsymbol⟩ := h.grids g x hruns.get?
      refine ⟨y, ⟨hy, hruns.called, hsymbol ▸ hruns.orders⟩, fun hstopped => hopens ?_⟩
      rw [← hsymbol]
      exact h.stopped _ hstopped
  | closing g pc rest =>
      obtain ⟨x, hruns, hopens⟩ := hpc
      obtain ⟨y, hy, hsymbol⟩ := h.grids g x hruns.get?
      exact ⟨y, ⟨hy, hruns.called, hsymbol ▸ hruns.orders⟩, hopens⟩
  | checked =>
      intro key hjob
      by_contra hstopped
      have hbefore := h.stopped key (Bool.of_not_eq_false hstopped)
      rw [hpc key hjob] at hbefore
      cases hbefore
  | _ => trivial

/-- The switches are set so that no symbol is stopped anew and a symbol that stays stopped
stays inactive. -/
theorem SwitchShared.Leads.of_switches {stopped inactive : String → Bool}
    (hstopped : ∀ key, stopped key = true → s.stopped key = true)
    (hinactive : ∀ key, stopped key = true → s.inactive key = true → inactive key = true) :
    s.Leads { s with stopped := stopped, inactive := inactive } where
  grids := fun _ x hx => ⟨x, hx, rfl⟩
  stopped := hstopped
  off := fun hoff key hkey => hinactive key hkey (hoff key (hstopped key hkey))
  submitted := fun h => h

theorem update_false_eq_true_iff {switch : String → Bool} {key key' : String} :
    Function.update switch key false key' = true ↔ key' ≠ key ∧ switch key' = true := by
  rw [Function.update_apply]
  split
  · simp [*]
  · simp [*]

/-- An order that does not open a stopped symbol is submitted. -/
theorem SwitchShared.Leads.submit {key : String} {opens : Bool}
    (h : opens = true → s.stopped key = false) : s.Leads (s.submit key opens) where
  grids := fun _ x hx => ⟨x, hx, rfl⟩
  stopped := fun _ h => h
  off := fun h => h
  submitted := by
    intro hs x hx
    rcases List.mem_cons.1 hx with rfl | hx
    · exact h
    · exact hs x hx

/-- A grid is stored after a segment of a call that opens nothing of a stopped symbol. -/
theorem leads_putGrid {g : UUID} {c : GridShared × GridPc}
    (hget : ∀ x ∈ s.grids.get? g, x.grid.symbol = c.1.grid.symbol)
    (horders : c.2.OrdersFor c.1.grid.symbol)
    (hopens : s.stopped c.1.grid.symbol.switchKey = true → c.2.Withholds) :
    s.Leads (s.putGrid g c) := by
  have hset : s.Leads { s with grids := s.grids.set g c.1 } := by
    refine ⟨fun g' x hx => ?_, fun _ h => h, fun h => h, fun h => h⟩
    by_cases hg : g' = g
    · subst hg
      exact ⟨c.1, Dict.get?_set_self _ _ _, (hget x hx).symm⟩
    · exact ⟨x, by rwa [Dict.get?_set_of_ne _ hg], rfl⟩
  unfold SwitchShared.putGrid
  split
  next f o k hpc =>
    obtain ⟨hsymbol, hreduce⟩ := horders f o k (.inr hpc)
    refine hset.trans (.submit fun hopening => ?_)
    by_contra hstopped
    rw [hsymbol] at hstopped
    rw [hreduce, (hopens (Bool.of_not_eq_false hstopped)).executing f o k hpc] at hopening
    cases hopening
  next => exact hset

theorem get?_putGrid (s : SwitchShared) (g : UUID) (c : GridShared × GridPc) :
    (s.putGrid g c).grids.get? g = some c.1 := by
  unfold SwitchShared.putGrid
  split
  · exact Dict.get?_set_self _ _ _
  · exact Dict.get?_set_self _ _ _

/-- A segment of a call on a grid of the registry. -/
theorem leads_of_gridHolds {g : UUID} {x : GridShared} {held : Prop}
    {c : GridShared × GridPc} (hget : s.grids.get? g = some x) (hholds : GridHolds x held c)
    (hheld : s.stopped x.grid.symbol.switchKey = true → held) :
    s.Leads (s.putGrid g c) ∧ c.2.Runs (s.putGrid g c) g c.1 := by
  have horders : c.2.OrdersFor c.1.grid.symbol := hholds.symbol.symm ▸ hholds.orders
  refine ⟨leads_putGrid (fun y hy => ?_) horders fun hstopped => ?_,
    get?_putGrid s g c, hholds.called, horders⟩
  · obtain rfl := Option.some.inj (hget.symm.trans hy)
    exact hholds.symbol.symm
  · rw [hholds.symbol] at hstopped
    exact hholds.withholds (hheld hstopped)

theorem stopped_putGrid (s : SwitchShared) (g : UUID) (c : GridShared × GridPc) :
    (s.putGrid g c).stopped = s.stopped := by
  unfold SwitchShared.putGrid
  split <;> rfl

theorem switchResult_grid {g : UUID} {x : GridShared} {held : Prop}
    {c : GridShared × GridPc} (hget : s.grids.get? g = some x) (hholds : GridHolds x held c)
    (hheld : s.stopped x.grid.symbol.switchKey = true → held) :
    SwitchResult s job (s.putGrid g c, .grid g c.2) := by
  obtain ⟨hleads, hruns⟩ := leads_of_gridHolds hget hholds hheld
  refine .goesOn hleads ⟨c.1, hruns, fun hstopped => ?_⟩
  rw [stopped_putGrid, hholds.symbol] at hstopped
  exact (hholds.withholds (hheld hstopped)).mayOpen

theorem switchResult_closeAll {key reason : String} (hkey : job.deactivates = some key)
    (rest : List UUID) :
    SwitchResult s job (s.closeAll cfg key reason id now rest) := by
  induction rest generalizing s with
  | nil => exact .stops hkey (.refl s)
  | cons g rest ih =>
      rw [SwitchShared.closeAll]
      split
      · exact ih
      next x hget =>
        split
        · split
          · exact ih
          next price hprice =>
            have hholds := gridHolds_close cfg.grid id now x True
              ("symbol_kill_switch:" ++ reason) price true
            obtain ⟨hleads, hruns⟩ := leads_of_gridHolds hget hholds fun _ => trivial
            dsimp only
            split
            · exact .of_leads hleads ih
            · exact .goesOn hleads ⟨_, hruns, (hholds.withholds trivial).mayOpen⟩
        · exact ih

theorem switchResult_runHooks {key reason : String} (hkey : job.deactivates = some key) :
    SwitchResult s job (s.runHooks cfg key reason id now) := by
  unfold SwitchShared.runHooks
  split
  · exact switchResult_closeAll hkey _
  · exact .stops hkey (.refl s)

theorem switchResult_register {plan : GridPlan} {gate : Option LiveVerificationState}
    {approved : Bool} {c : SwitchShared × SwitchPc}
    (h : s.register cfg plan gate approved id now = some c) : SwitchResult s job c := by
  unfold SwitchShared.register at h
  split at h
  · split at h
    next => cases h
    next hnone =>
      rw [← Option.some.inj h]
      have hholds := gridHolds_opened cfg.grid id now
        ⟨⟨buildGridState plan, gate⟩, [], none, []⟩ True false
      have horders := hholds.symbol.symm ▸ hholds.orders
      have hwithholds := hholds.withholds trivial
      refine .goesOn (leads_putGrid (fun x hx => ?_) horders fun _ => hwithholds) ?_
      · rw [hnone] at hx
        cases hx
      · exact ⟨_, ⟨get?_putGrid s plan.id _, hholds.called, horders⟩,
          fun _ => hwithholds.mayOpen⟩
  · rw [← Option.some.inj h]
    exact .goesOn (.refl s) trivial

theorem switchResult_call {approved : Bool} {c : SwitchShared × SwitchPc}
    (hoff : ∀ key, s.stopped key = true → s.inactive key = true)
    (h : switchCall cfg s approved id now job = some c) : SwitchResult s job c := by
  cases job with
  | grid g job =>
      unfold switchCall at h
      dsimp only at h
      split at h
      next =>
        rw [← Option.some.inj h]
        exact .goesOn (.refl s) trivial
      next x hget =>
        rw [← Option.some.inj h]
        exact switchResult_grid hget (gridHolds_call job _) (hoff _)
  | openGrid plan gate =>
      unfold switchCall at h
      dsimp only at h
      split at h
      · rw [← Option.some.inj h]
        exact .goesOn (.refl s) trivial
      · split at h
        · rw [← Option.some.inj h]
          exact .goesOn (.refl s) trivial
        · exact switchResult_register h
  | deactivate key reason =>
      have hoffNow : s.Leads { s with inactive := Function.update s.inactive key true } := by
        apply SwitchShared.Leads.of_switches
        · exact fun _ h => h
        · intro key' _ hkey'
          rw [Function.update_apply]
          split
          · rfl
          · exact hkey'
      unfold switchCall at h
      dsimp only at h
      rw [← Option.some.inj h]
      split
      · exact .goesOn hoffNow trivial
      · exact .of_leads hoffNow (switchResult_runHooks rfl)
  | activate key =>
      have hstays : ∀ key', Function.update s.stopped key false key' = true →
          s.stopped key' = true :=
        fun key' hkey' => (update_false_eq_true_iff.1 hkey').2
      unfold switchCall at h
      dsimp only at h
      split at h
      · rw [← Option.some.inj h]
        refine .goesOn (.of_switches hstays fun key' hkey' hinactive => ?_) ?_
        · exact update_false_eq_true_iff.2 ⟨(update_false_eq_true_iff.1 hkey').1, hinactive⟩
        · split <;> trivial
      · rw [← Option.some.inj h]
        exact .goesOn (.of_switches hstays fun _ _ hinactive => hinactive) trivial
  | cycle key =>
      unfold switchCall at h
      dsimp only at h
      rw [← Option.some.inj h]
      refine .goesOn (.refl s) ?_
      split
      next => trivial
      next hactive =>
        intro key' hjob
        cases hjob
        by_contra hstopped
        exact hactive (hoff key (Bool.of_not_eq_false hstopped))

/-- One segment of a call, from a state in which a stopped symbol is not active. -/
theorem switchResult_segment {pc : SwitchPc} {w : SwitchWake} {c : SwitchShared × SwitchPc}
    (hoff : ∀ key, s.stopped key = true → s.inactive key = true) (hpc : pc.Sound s job)
    (h : switchSegment cfg job s pc w = some c) : SwitchResult s job c := by
  unfold switchSegment at h
  split at h
  next => exact switchResult_call hoff h
  next g pc _ e _ =>
    obtain ⟨x, hruns, hopens⟩ := hpc
    rw [hruns.get?, Option.bind_some] at h
    obtain ⟨⟨y, pc'⟩, hseg, rfl⟩ := Option.map_eq_some_iff.1 h
    exact switchResult_grid hruns.get? (gridHolds_segment hseg hruns.called hruns.orders)
      hopens
  next => exact switchResult_register h
  next =>
    rw [← Option.some.inj h]
    exact switchResult_runHooks rfl
  next g pc rest key reason e _ =>
    obtain ⟨x, hruns, hopens⟩ := hpc
    rw [hruns.get?, Option.bind_some] at h
    obtain ⟨⟨y, pc'⟩, hseg, rfl⟩ := Option.map_eq_some_iff.1 h
    have hholds := gridHolds_segment hseg hruns.called hruns.orders
    obtain ⟨hleads, hruns'⟩ := leads_of_gridHolds hruns.get? hholds fun _ => hopens
    dsimp only
    split
    · exact .of_leads hleads (switchResult_closeAll rfl rest)
    · exact .stops rfl hleads
    · exact .goesOn hleads ⟨y, hruns', (hholds.withholds hopens).mayOpen⟩
  next =>
    rw [← Option.some.inj h]
    exact .goesOn (.refl s) trivial
  next key opens _ =>
    rw [← Option.some.inj h]
    exact .goesOn (.submit fun _ => hpc key rfl) trivial
  next =>
    rw [← Option.some.inj h]
    exact .goesOn (.refl s) trivial
  next =>
    rw [← Option.some.inj h]
    exact .goesOn (.refl s) trivial
  next => cases h

end Segments

/-! ### Runs -/

section Runs

variable {ι : Type*} [DecidableEq ι] {cfg : SwitchConfig} {job : ι → SwitchJob}

/-- A stopped symbol is not active, and no call can open exposure of it. -/
structure SwitchSound (job : ι → SwitchJob) (P : Pool ι SwitchShared SwitchPc) : Prop where
  off : ∀ key, P.shared.stopped key = true → P.shared.inactive key = true
  calls : ∀ i, (P.task i).Sound P.shared (job i)
  submitted : StopsOpening P.shared

/-- A call that cannot open exposure of a symbol that is stopped now. -/
theorem SwitchPc.Sound.deactivated {s : SwitchShared} {pc : SwitchPc} {job : SwitchJob}
    {key : String} (hpc : pc.Sound s job) (hopens : pc.mayOpen s key job = false) :
    pc.Sound (s.deactivated key).1 job := by
  have hstopped : ∀ {key'}, (s.deactivated key).1.stopped key' = true →
      key' = key ∨ s.stopped key' = true := by
    intro key' h
    by_cases hk : key' = key
    · exact .inl hk
    · exact .inr (by simpa [SwitchShared.deactivated, hk] using h)
  cases pc with
  | grid g pc =>
      obtain ⟨x, hruns, hheld⟩ := hpc
      refine ⟨x, ⟨hruns.get?, hruns.called, hruns.orders⟩, fun h => ?_⟩
      rcases hstopped h with hk | h
      · simpa [SwitchPc.mayOpen, hruns.get?, hk] using hopens
      · exact hheld h
  | closing g pc rest =>
      obtain ⟨x, hruns, hheld⟩ := hpc
      exact ⟨x, ⟨hruns.get?, hruns.called, hruns.orders⟩, hheld⟩
  | checked =>
      rintro key' rfl
      by_contra h
      rcases hstopped (Bool.of_not_eq_false h) with hk | h
      · simp [SwitchPc.mayOpen, hk] at hopens
      · rw [hpc key' rfl] at h
        cases h
  | _ => trivial

omit [DecidableEq ι] in
theorem SwitchSound.of_leads {P : Pool ι SwitchShared SwitchPc} {t : SwitchShared}
    (h : SwitchSound job P) (hleads : P.shared.Leads t) : SwitchSound job ⟨t, P.task⟩ where
  off := hleads.off h.off
  calls := fun i => (h.calls i).of_leads hleads
  submitted := hleads.submitted h.submitted

theorem SwitchSound.step {P Q : Pool ι SwitchShared SwitchPc} {a : ι × SwitchWake}
    (h : SwitchSound job P) (hok : DeactivatesLast cfg job P a)
    (hnext : (switchMachine cfg job).next P a = some Q) : SwitchSound job Q := by
  obtain ⟨i, w⟩ := a
  have hlast := fun key hkey => hok key hkey Q hnext
  obtain ⟨t, pc, hseg, rfl⟩ := Pool.machine_next_eq_some_iff.1 hnext
  have hresult := switchResult_segment h.off (h.calls i) hseg
  generalize hc : (t, pc) = c at hresult
  cases hresult with
  | goesOn hleads hpc =>
      cases hc
      have hsound := h.of_leads hleads
      exact ⟨hsound.off, Pool.forall_task_resume
        (φ := fun j (pc : SwitchPc) => pc.Sound t (job j)) (fun j _ => hsound.calls j) hpc,
        hsound.submitted⟩
  | @stops u key hkey hleads =>
      cases hc
      obtain ⟨hinactive, hnone⟩ := hlast key hkey (by rw [Pool.resume_task_self]; rfl)
      have hsound := h.of_leads hleads
      refine ⟨fun key' hkey' => ?_, Pool.forall_task_resume
        (φ := fun j (pc : SwitchPc) => pc.Sound (u.deactivated key).1 (job j))
        (fun j hj => (hsound.calls j).deactivated ?_) trivial, hsound.submitted⟩
      · by_cases hk : key' = key
        · rw [hk]
          exact hinactive
        · exact hsound.off key' (by simpa [SwitchShared.deactivated, hk] using hkey')
      · have hj' := hnone j
        rwa [Pool.resume_task_of_ne P hj] at hj'

omit [DecidableEq ι] in
theorem switchSound_start : SwitchSound job switchStart where
  off := fun _ h => nomatch h
  calls := fun _ => trivial
  submitted := fun _ hx => nomatch hx

/-- In every run in which `deactivate` returns while the symbol is not active and no call
can still open exposure of it, no order that opens exposure of the symbol is submitted
before `activate` is called. -/
theorem stopsOpening_of_deactivatesLast {as : List (ι × SwitchWake)}
    {P : Pool ι SwitchShared SwitchPc}
    (hok : (switchMachine cfg job).Guarded (DeactivatesLast cfg job) switchStart as)
    (hrun : (switchMachine cfg job).run switchStart as = some P) : StopsOpening P.shared :=
  ((switchMachine cfg job).guarded_run_invariant (DeactivatesLast cfg job) (SwitchSound job)
    (fun _ _ _ h hok hnext => h.step hok hnext) switchSound_start hok hrun).submitted

end Runs

/-! ### A tick that was under way -/

/-- A grid with two levels to open. -/
def GridPlan.wide : GridPlan := { GridPlan.btc with prices := [80, 90, 100] }

/-- `deactivate` closes the grids of the symbol. -/
def SwitchConfig.hooks : SwitchConfig := ⟨.bare, false, true, false⟩

/-- A grid is opened, the price falls through two levels, the symbol is deactivated, and a
cycle is run. -/
def SwitchJob.btc : Fin 4 → SwitchJob
  | 0 => .openGrid .wide none
  | 1 => .grid 7 (.tick 79)
  | 2 => .deactivate "binance:BTC/USDT" "manual"
  | 3 => .cycle "binance:BTC/USDT"

def SwitchWake.call (id : UUID) : SwitchWake := ⟨.called true, id, 0⟩

def SwitchWake.fill (id : UUID) : SwitchWake :=
  ⟨.grid (.executed (.returned .filledOne)), id, 0⟩

/-- The symbol is deactivated after the tick. -/
def switchInTurn : List (Fin 4 × SwitchWake) :=
  [(0, .call 1), (1, .call 2), (1, .fill 3), (1, .fill 4), (2, .call 5), (2, .fill 6),
    (2, .fill 7), (3, .call 8)]

/-- The symbol is deactivated while the tick waits for its first order. -/
def switchTogether : List (Fin 4 × SwitchWake) :=
  [(0, .call 1), (1, .call 2), (2, .call 3), (1, .fill 4)]

theorem stopsOpening_of_deactivatesLast_btc :
    ∃ P, (switchMachine .hooks .btc).run switchStart switchInTurn = some P ∧
      StopsOpening P.shared := by
  have hend : ((switchMachine .hooks .btc).run switchStart switchInTurn).isSome = true := by
    decide +kernel
  obtain ⟨P, hP⟩ := Option.isSome_iff_exists.1 hend
  exact ⟨P, hP, stopsOpening_of_deactivatesLast (by decide +kernel) hP⟩

/-- The tick opens its second level after `deactivate` has returned. -/
theorem not_stopsOpening :
    ¬ ∀ (cfg : SwitchConfig) (job : Fin 4 → SwitchJob) (as : List (Fin 4 × SwitchWake))
      (P : Pool (Fin 4) SwitchShared SwitchPc),
      (switchMachine cfg job).run switchStart as = some P → StopsOpening P.shared := by
  intro h
  have hend : ((switchMachine .hooks .btc).run switchStart switchTogether).any (fun P =>
      P.shared.submitted.any fun x => x.opens && x.whileStopped) = true := by
    decide +kernel
  obtain ⟨P, hP, hany⟩ := (Option.any_eq_true _ _).1 hend
  obtain ⟨x, hx, hboth⟩ := List.any_eq_true.1 hany
  obtain ⟨hopens, hstopped⟩ := Bool.and_eq_true_iff.1 hboth
  rw [h _ _ _ P hP x hx hopens] at hstopped
  cases hstopped

end Sgr
