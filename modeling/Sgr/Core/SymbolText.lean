import Mathlib.Data.List.TakeWhile
import Sgr.Core.Types

/-!
# Symbols and their texts

The tables keep a symbol as `base/quote` next to its exchange; what reads a row builds a
`Symbol` from the two parts of the text, which is a symbol of the spot market. In memory a symbol is
rendered with its exchange and without its asset class.
-/

namespace Sgr

/-- `str.upper`: each character gives one or more. -/
structure UpperCase where
  char : Char → List Char
  char_of_mem : ∀ c, ∀ d ∈ char c, char d = [d]
  eq_slash : ∀ c, '/' ∈ char c → c = '/'

namespace UpperCase

variable (upper : UpperCase)

def apply (text : String) : String := String.ofList (text.toList.flatMap upper.char)

theorem toList_apply (text : String) :
    (upper.apply text).toList = text.toList.flatMap upper.char := String.toList_ofList

theorem slash {text : String} (h : '/' ∈ (upper.apply text).toList) : '/' ∈ text.toList := by
  rw [toList_apply] at h
  obtain ⟨c, hc, hslash⟩ := List.mem_flatMap.1 h
  rwa [upper.eq_slash c hslash] at hc

/-- A character of an upper case text stays as it is. -/
theorem char_of_mem_apply {text : String} {c : Char} (h : c ∈ (upper.apply text).toList) :
    upper.char c = [c] := by
  rw [toList_apply] at h
  obtain ⟨d, -, hc⟩ := List.mem_flatMap.1 h
  exact upper.char_of_mem d c hc

theorem apply_eq_self {text : String} (h : ∀ c ∈ text.toList, upper.char c = [c]) :
    upper.apply text = text := by
  have hchars : text.toList.flatMap upper.char = text.toList := by
    rw [List.flatMap_def, List.map_congr_left h, ← List.flatMap_def, List.flatMap_singleton']
  rw [apply, hchars, String.ofList_toList]

end UpperCase

/-- What is left of the first `a` of a list, and what is right of it. -/
def splitFirst {α : Type*} [DecidableEq α] (a : α) (l : List α) : List α × List α :=
  (l.takeWhile (· ≠ a), (l.dropWhile (· ≠ a)).drop 1)

section SplitFirst

variable {α : Type*} [DecidableEq α] {a : α}

theorem notMem_splitFirst (a : α) (l : List α) : a ∉ (splitFirst a l).1 := by
  intro h
  simpa using List.mem_takeWhile_imp h

theorem splitFirst_append_cons {xs : List α} (h : a ∉ xs) (ys : List α) :
    splitFirst a (xs ++ a :: ys) = (xs, ys) := by
  have hxs : ∀ x ∈ xs, decide (x ≠ a) = true := by
    intro x hx
    simpa using fun heq : x = a => h (heq ▸ hx)
  rw [splitFirst, List.takeWhile_append_of_pos hxs, List.dropWhile_append_of_pos hxs]
  simp

theorem splitFirst_fst_append_left {xs : List α} (h : a ∉ xs) (ys : List α) :
    (splitFirst a (xs ++ ys)).1 = xs ++ (splitFirst a ys).1 := by
  have hxs : ∀ x ∈ xs, decide (x ≠ a) = true := by
    intro x hx
    simpa using fun heq : x = a => h (heq ▸ hx)
  exact List.takeWhile_append_of_pos hxs

/-- The parts of a list with an `a`. -/
theorem splitFirst_fst_append {l : List α} (h : a ∈ l) :
    (splitFirst a l).1 ++ a :: (splitFirst a l).2 = l := by
  have hne : l.dropWhile (· ≠ a) ≠ [] := by
    intro hnil
    have hall := List.dropWhile_eq_nil_iff.1 hnil a h
    simp at hall
  have hhead : (l.dropWhile (· ≠ a)).head hne = a := by
    have hnot := List.head_dropWhile_not (fun x => decide (x ≠ a)) hne
    simpa using hnot
  calc (splitFirst a l).1 ++ a :: (splitFirst a l).2
      = l.takeWhile (· ≠ a) ++
          (l.dropWhile (· ≠ a)).head hne :: (l.dropWhile (· ≠ a)).drop 1 := by
        rw [hhead]
        rfl
    _ = l := by
        rw [List.drop_one, List.cons_head_tail, List.takeWhile_append_dropWhile]

theorem splitFirst_of_notMem {l : List α} (h : a ∉ l) : splitFirst a l = (l, []) := by
  have hall : ∀ x ∈ l, decide (x ≠ a) = true := by
    intro x hx
    simpa using fun heq : x = a => h (heq ▸ hx)
  rw [splitFirst, List.takeWhile_eq_self_iff.2 hall, List.dropWhile_eq_nil_iff.2 hall]
  rfl

end SplitFirst

/-- `partition("/")` without the separator. -/
def partitionSlash (text : String) : String × String :=
  (String.ofList (splitFirst '/' text.toList).1, String.ofList (splitFirst '/' text.toList).2)

/-- `Symbol(base=base, quote=quote, exchange=...)` for the parts of the text of a row. -/
def symbolOfText (upper : UpperCase) (text : String) (exchange : ExchangeID) : Symbol where
  base := upper.apply (partitionSlash text).1
  quote := upper.apply (partitionSlash text).2
  exchange := exchange
  assetClass := .spot

namespace Symbol

/-- The validator of `Symbol` leaves its parts as they are. -/
def IsUpper (upper : UpperCase) (s : Symbol) : Prop :=
  upper.apply s.base = s.base ∧ upper.apply s.quote = s.quote

theorem toList_ccxtSymbol (s : Symbol) :
    s.ccxtSymbol.toList = s.base.toList ++ '/' :: s.quote.toList := by
  have htext : "/".toList = ['/'] := by decide
  rw [ccxtSymbol, String.toList_append, String.toList_append, htext, List.append_assoc,
    List.singleton_append]

theorem partitionSlash_ccxtSymbol {s : Symbol} (h : '/' ∉ s.base.toList) :
    partitionSlash s.ccxtSymbol = (s.base, s.quote) := by
  rw [partitionSlash, toList_ccxtSymbol, splitFirst_append_cons h, String.ofList_toList,
    String.ofList_toList]

/-- A symbol is built again from its text exactly when it is one of the spot market whose
base has no slash. -/
theorem symbolOfText_ccxtSymbol_iff (upper : UpperCase) (s : Symbol) :
    symbolOfText upper s.ccxtSymbol s.exchange = s ↔
      s.assetClass = .spot ∧ '/' ∉ s.base.toList ∧ s.IsUpper upper := by
  constructor
  · intro h
    have hbase : '/' ∉ s.base.toList := by
      intro hmem
      rw [← congrArg Symbol.base h] at hmem
      have hslash := upper.slash hmem
      rw [partitionSlash, String.toList_ofList] at hslash
      exact notMem_splitFirst '/' _ hslash
    have hparts := partitionSlash_ccxtSymbol hbase
    refine ⟨(congrArg Symbol.assetClass h).symm, hbase, ?_, ?_⟩
    · simpa [symbolOfText, hparts] using congrArg Symbol.base h
    · simpa [symbolOfText, hparts] using congrArg Symbol.quote h
  · rintro ⟨hclass, hbase, hupper, hupper'⟩
    rw [symbolOfText, partitionSlash_ccxtSymbol hbase]
    dsimp only
    rw [hupper, hupper', ← hclass]

end Symbol

theorem eq_slash_of_toUpper {c : Char} (h : c.toUpper = '/') : c = '/' := by
  unfold Char.toUpper at h
  split at h
  next hlower =>
    have hval := congrArg Char.val h
    have hle : 97 ≤ c.toNat := UInt32.le_iff_toNat_le.1 hlower.1
    have hle' : c.toNat ≤ 122 := UInt32.le_iff_toNat_le.1 hlower.2
    have hnat := congrArg UInt32.toNat hval
    simp at hnat
    omega
  next => exact h

theorem toUpper_toUpper (c : Char) : c.toUpper.toUpper = c.toUpper := by
  unfold Char.toUpper
  split
  next hlower =>
    split
    next hlower' =>
      have hle : 97 ≤ c.toNat := UInt32.le_iff_toNat_le.1 hlower.1
      have hle' : c.toNat ≤ 122 := UInt32.le_iff_toNat_le.1 hlower.2
      have hle'' := UInt32.le_iff_toNat_le.1 hlower'.1
      simp at hle''
      omega
    next => rfl
  next => rfl

/-- Upper case for ASCII texts. -/
def UpperCase.ascii : UpperCase where
  char c := [c.toUpper]
  char_of_mem := by
    intro c d hd
    obtain rfl := List.mem_singleton.1 hd
    rw [toUpper_toUpper]
  eq_slash := by
    intro c hc
    exact eq_slash_of_toUpper (List.mem_singleton.1 hc).symm

/-! ### The rendered symbol -/

/-- What an exchange knows of a symbol. -/
def Symbol.account (s : Symbol) : ExchangeID × String := (s.exchange, s.ccxtSymbol)

private theorem takeWhile_reverse_append {α : Type*} {p : α → Bool} {x : α} {as bs : List α}
    (hx : p x = false) (hbs : ∀ b ∈ bs, p b = true) :
    (as ++ x :: bs).reverse.takeWhile p = bs.reverse := by
  have hrev : ∀ b ∈ bs.reverse, p b = true := fun b hb => hbs b (List.mem_reverse.1 hb)
  rw [List.reverse_append, List.reverse_cons, List.append_assoc,
    List.takeWhile_append_of_pos hrev]
  simp [hx]

theorem colon_notMem_value (e : ExchangeID) : ∀ c ∈ e.value.toList, (c != ':') = true := by
  have hall : e.value.toList.all (· != ':') = true := by
    cases e <;> decide
  exact List.all_eq_true.1 hall

theorem ExchangeID.value_injective : Function.Injective ExchangeID.value := by
  intro e e' h
  cases e <;> cases e' <;> first | rfl | exact absurd h (by decide)

/-- Two symbols are rendered alike exactly if an exchange takes them for one market. -/
theorem Symbol.str_eq_iff (s t : Symbol) : s.str = t.str ↔ s.account = t.account := by
  have hlist (s : Symbol) :
      s.str.toList = s.ccxtSymbol.toList ++ ':' :: s.exchange.value.toList := by
    simp [Symbol.str, Symbol.ccxtSymbol]
  constructor
  · intro h
    have hchars := congrArg String.toList h
    rw [hlist, hlist] at hchars
    have hexchange := congrArg (fun l => l.reverse.takeWhile (· != ':')) hchars
    rw [takeWhile_reverse_append (by simp) (colon_notMem_value _),
      takeWhile_reverse_append (by simp) (colon_notMem_value _), List.reverse_inj,
      String.toList_inj] at hexchange
    have hsame := ExchangeID.value_injective hexchange
    rw [hexchange, List.append_cancel_right_eq, String.toList_inj] at hchars
    rw [Symbol.account, Symbol.account, hsame, hchars]
  · intro h
    obtain ⟨hexchange, hccxt⟩ := Prod.mk.inj h
    rw [← String.toList_inj, hlist, hlist, hexchange, hccxt]

end Sgr
