import Mathlib.Logic.Function.Basic
import Mathlib.Order.WithBot

/-!
# Stores whose entries expire

A store keeps for a key a value and the time from which it is gone. A command sets or deletes one
key, so what a key holds after it is what the command leaves, if it is a command on this key, and
else what it held before.
-/

namespace Collection

/-- A store: for a key a value and the time from which it is gone, `⊤` for a value that stays. -/
abbrev ExpiringStore (κ α τ : Type*) := κ → Option (α × WithTop τ)

/-- A command on a store. -/
inductive StoreCommand (κ α τ : Type*)
  | set (k : κ) (a : α) (expiry : WithTop τ)
  | delete (k : κ)

namespace StoreCommand

variable {κ α τ : Type*}

/-- The key of a command. -/
def key : StoreCommand κ α τ → κ
  | set k _ _ => k
  | delete k => k

/-- What a command leaves at its key. -/
def cell : StoreCommand κ α τ → Option (α × WithTop τ)
  | set _ a expiry => some (a, expiry)
  | delete _ => none

/-- The command on the key that a key is written as. -/
def mapKey {ι : Type*} (f : κ → ι) : StoreCommand κ α τ → StoreCommand ι α τ
  | set k a expiry => set (f k) a expiry
  | delete k => delete (f k)

variable {ι : Type*} {f : κ → ι}

@[simp] theorem key_mapKey (c : StoreCommand κ α τ) : (c.mapKey f).key = f c.key := by
  cases c <;> rfl

@[simp] theorem cell_mapKey (c : StoreCommand κ α τ) : (c.mapKey f).cell = c.cell := by
  cases c <;> rfl

end StoreCommand

namespace ExpiringStore

variable {κ α τ : Type*}

/-- The store without an entry. -/
def empty : ExpiringStore κ α τ := fun _ => none

@[simp] theorem empty_apply (k : κ) : (empty : ExpiringStore κ α τ) k = none := rfl

section Exec

variable [DecidableEq κ] {s : ExpiringStore κ α τ} {c : StoreCommand κ α τ} {k : κ}

/-- A command is executed. -/
def exec (s : ExpiringStore κ α τ) (c : StoreCommand κ α τ) : ExpiringStore κ α τ :=
  Function.update s c.key c.cell

theorem exec_of_eq (h : c.key = k) : s.exec c k = c.cell := by
  subst h
  exact Function.update_self _ _ _

theorem exec_of_ne (h : c.key ≠ k) : s.exec c k = s k := Function.update_of_ne h.symm _ _

variable {ι : Type*} {f : ι → κ} {i : ι}

/-- What a key holds after a command, if there is one, on keys that are written without
ambiguity. -/
theorem elim_exec_apply (hf : Function.Injective f) (command : Option (StoreCommand ι α τ))
    (e : α × WithTop τ) :
    (command.elim s fun d => s.exec (d.mapKey f)) (f i) = some e ↔
      (∃ d ∈ command, d.key = i ∧ d.cell = some e) ∨
        s (f i) = some e ∧ ∀ d ∈ command, d.key ≠ i := by
  cases command with
  | none => simp
  | some d =>
      simp only [Option.elim_some, Option.mem_some_iff, exists_eq_left', forall_eq']
      by_cases hkey : d.key = i
      · rw [exec_of_eq (by rw [StoreCommand.key_mapKey, hkey]), StoreCommand.cell_mapKey]
        simp [hkey]
      · rw [exec_of_ne (by rw [StoreCommand.key_mapKey]; exact hf.ne hkey)]
        simp [hkey]

end Exec

section Read

variable [LT τ] [DecidableLT τ] {s t : ExpiringStore κ α τ} {k : κ} {a : α} {now : τ}

/-- What a key holds at a time. -/
def read (s : ExpiringStore κ α τ) (k : κ) (now : τ) : Option α :=
  ((s k).filter fun entry => (now : WithTop τ) < entry.2).map Prod.fst

theorem read_eq_some_iff :
    s.read k now = some a ↔ ∃ expiry, s k = some (a, expiry) ∧ (now : WithTop τ) < expiry := by
  simp only [read, Option.map_eq_some_iff, Option.filter_eq_some_iff, decide_eq_true_eq,
    Prod.exists]
  constructor
  · rintro ⟨_, expiry, ⟨hs, hlt⟩, rfl⟩
    exact ⟨expiry, hs, hlt⟩
  · rintro ⟨expiry, hs, hlt⟩
    exact ⟨a, expiry, ⟨hs, hlt⟩, rfl⟩

theorem read_congr (h : s k = t k) : s.read k now = t.read k now := by rw [read, read, h]

end Read

end ExpiringStore

end Collection
