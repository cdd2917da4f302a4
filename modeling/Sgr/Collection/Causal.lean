import Mathlib.Data.List.ReduceOption
import Mathlib.Data.Option.NAry

/-!
# Causal transformations of series

A transformation of series is causal when the value at a place depends on what stands up to
that place only: a prefix of the series is transformed into a prefix of the result. Maps,
running folds, moving windows and smoothed averages are causal, and so is what is put together
from causal transformations. A series with gaps can be compressed, transformed and put back
into its places.
-/

namespace Collection

variable {α β γ δ σ : Type*}

/-- Each place of the result depends on the places of the series up to it. -/
structure Causal (f : List α → List β) : Prop where
  length : ∀ xs, (f xs).length = xs.length
  take : ∀ n xs, f (xs.take n) = (f xs).take n

namespace Causal

variable {f : List α → List β} {g : List α → List γ} {xs : List α} {i : ℕ}

/-- What stands at a place is the last value of the transformed prefix up to it. -/
theorem getLast?_take (h : Causal f) (hi : i < xs.length) :
    (f (xs.take (i + 1))).getLast? = (f xs)[i]? := by
  have hlength : (f xs).length = xs.length := h.length xs
  rw [h.take, List.getLast?_eq_getElem?, List.length_take, hlength, Nat.min_eq_left hi,
    Nat.succ_sub_one, List.getElem?_take_of_lt (Nat.lt_succ_self i)]

theorem comp {g : List β → List γ} (hg : Causal g) (hf : Causal f) :
    Causal fun xs => g (f xs) where
  length := fun xs => (hg.length _).trans (hf.length xs)
  take := fun n xs => by rw [hf.take, hg.take]

theorem zipWith (hf : Causal f) (hg : Causal g) (h : β → γ → δ) :
    Causal fun xs => List.zipWith h (f xs) (g xs) where
  length := fun xs => by simp [hf.length, hg.length]
  take := fun n xs => by rw [hf.take, hg.take, ← List.take_zipWith]

end Causal

theorem causal_map (f : α → β) : Causal (List.map f) where
  length := fun _ => List.length_map ..
  take := fun _ _ => List.map_take

/-- A transformation that each place reads off from the prefix up to it. -/
theorem causal_prefixes (v : List α → β) :
    Causal fun xs => (List.range xs.length).map fun i => v (xs.take (i + 1)) where
  length := fun xs => by simp
  take := fun n xs => by
    apply List.ext_getElem
    · simp
    · intro i hi _
      have hin : i < n := by
        rw [List.length_map, List.length_range, List.length_take] at hi
        omega
      simp [List.take_take, Nat.min_eq_left (Nat.succ_le_of_lt hin)]

/-! ### Running folds -/

/-- The values of a fold after each element. -/
def running (f : σ → α → σ) : σ → List α → List σ
  | _, [] => []
  | s, x :: xs => f s x :: running f (f s x) xs

theorem causal_running (f : σ → α → σ) (s : σ) : Causal (running f s) where
  length := fun xs => by
    induction xs generalizing s with
    | nil => rfl
    | cons x xs ih => simp [running, ih]
  take := fun n xs => by
    induction xs generalizing s n with
    | nil => simp [running]
    | cons x xs ih =>
        cases n with
        | zero => rfl
        | succ n => simp [running, ih]

/-! ### Smoothed averages -/

/-- Nothing until `period` values are there; then a seed from the first `period` values, and
after it a fold over the values that follow. -/
def smoothed (seed : List α → σ) (f : σ → α → σ) (period : ℕ) (xs : List α) :
    List (Option σ) :=
  if xs.length < period then List.replicate xs.length none
  else
    List.replicate (period - 1) none ++
      (seed (xs.take period) :: running f (seed (xs.take period)) (xs.drop period)).map some

theorem smoothed_of_lt {seed : List α → σ} {f : σ → α → σ} {period : ℕ} {xs : List α}
    (h : xs.length < period) : smoothed seed f period xs = List.replicate xs.length none :=
  if_pos h

theorem causal_smoothed (seed : List α → σ) (f : σ → α → σ) {period : ℕ} (hperiod : 0 < period) :
    Causal (smoothed seed f period) where
  length := fun xs => by
    unfold smoothed
    split
    · simp
    · simp only [List.length_append, List.length_replicate, List.length_map, List.length_cons,
        (causal_running f _).length, List.length_drop]
      omega
  take := fun n xs => by
    by_cases hxs : xs.length < period
    · have htake : (xs.take n).length < period := by
        rw [List.length_take]
        omega
      rw [smoothed_of_lt hxs, smoothed_of_lt htake, List.length_take, List.take_replicate]
    · by_cases hn : n < period
      · have htake : (xs.take n).length < period := by
          rw [List.length_take]
          omega
        rw [smoothed_of_lt htake, smoothed, if_neg hxs, List.length_take,
          Nat.min_eq_left (by omega), List.take_append_of_le_length (by simp; omega),
          List.take_replicate, Nat.min_eq_left (by omega)]
      · have htake : ¬ (xs.take n).length < period := by
          rw [List.length_take]
          omega
        have hseed : (xs.take n).take period = xs.take period := by
          rw [List.take_take, Nat.min_eq_left (by omega)]
        have hrest : (xs.take n).drop period = (xs.drop period).take (n - period) :=
          List.drop_take
        have hsucc : n - (period - 1) = n - period + 1 := by omega
        rw [smoothed, smoothed, if_neg hxs, if_neg htake, hseed, hrest,
          (causal_running f _).take, List.take_append, List.length_replicate,
          List.take_replicate, Nat.min_eq_right (by omega), hsucc, ← List.map_take,
          List.take_succ_cons]

/-! ### Neighbours -/

/-- Each pair of neighbours. -/
def neighbours (h : α → α → β) (xs : List α) : List β := List.zipWith h xs xs.tail

/-- An array of the length of `xs` whose first place is empty and whose other places are
given. -/
def padFirst (xs : List α) (ys : List (Option β)) : List (Option β) :=
  match xs with
  | [] => []
  | _ :: _ => none :: ys

theorem neighbours_take_succ (h : α → α → β) (n : ℕ) (xs : List α) :
    neighbours h (xs.take (n + 1)) = (neighbours h xs).take n := by
  cases xs with
  | nil => simp [neighbours]
  | cons x xs =>
      rw [neighbours, List.take_succ_cons, List.tail_cons, neighbours, List.tail_cons,
        List.take_zipWith]
      cases n with
      | zero => simp
      | succ n =>
          rw [List.take_succ_cons]
          apply List.ext_getElem?
          intro i
          simp only [List.getElem?_zipWith, List.getElem?_take, List.getElem?_cons]
          grind

/-- What is causal in the pairs of neighbours is causal in the series. -/
theorem Causal.padFirst {g : List β → List (Option γ)} (hg : Causal g) (h : α → α → β) :
    Causal fun xs => Collection.padFirst xs (g (neighbours h xs)) where
  length := fun xs => by
    cases xs with
    | nil => rfl
    | cons x xs => simp [Collection.padFirst, hg.length, neighbours]
  take := fun n xs => by
    cases xs with
    | nil => simp [Collection.padFirst]
    | cons x xs =>
        cases n with
        | zero => rfl
        | succ n =>
            rw [neighbours_take_succ, hg.take]
            simp [Collection.padFirst]

theorem padFirst_tail_padFirst (xs : List α) (ys : List (Option β)) :
    padFirst xs (padFirst xs ys).tail = padFirst xs ys := by
  cases xs with
  | nil => rfl
  | cons x xs => rfl

/-- What a pair makes of the places after the first, where it makes nothing of a missing
value. -/
theorem padFirst_zipWith_tail {f : Option β → Option γ → Option δ} (hf : ∀ x, f x none = none)
    {xs : List α} {ys : List (Option β)} (hlength : ys.length = xs.length)
    (zs : List (Option γ)) :
    padFirst xs (List.zipWith f ys.tail zs) = List.zipWith f ys (padFirst xs zs) := by
  cases xs with
  | nil => simp [padFirst]
  | cons x xs =>
      cases ys with
      | nil => simp at hlength
      | cons y ys => simp [padFirst, hf]

/-- A first value from the first element, and then a value for each pair of neighbours. -/
def withFirst (first : α → β) (h : α → α → β) (xs : List α) : List β :=
  match xs with
  | [] => []
  | x :: _ => first x :: neighbours h xs

theorem causal_withFirst (first : α → β) (h : α → α → β) : Causal (withFirst first h) where
  length := fun xs => by
    cases xs with
    | nil => rfl
    | cons x xs => simp [withFirst, neighbours]
  take := fun n xs => by
    cases xs with
    | nil => simp [withFirst]
    | cons x xs =>
        cases n with
        | zero => rfl
        | succ n =>
            have hpairs := neighbours_take_succ h n (x :: xs)
            rw [List.take_succ_cons] at hpairs ⊢
            simp only [withFirst, hpairs, List.take_succ_cons]

/-- A running fold over the pairs of neighbours that starts at the first place. -/
def runningPairs (f : σ → α → α → σ) (s : σ) (xs : List α) : List σ :=
  match xs with
  | [] => []
  | _ :: _ => s :: running (fun acc p => f acc p.1 p.2) s (neighbours Prod.mk xs)

theorem causal_runningPairs (f : σ → α → α → σ) (s : σ) : Causal (runningPairs f s) where
  length := fun xs => by
    cases xs with
    | nil => rfl
    | cons x xs => simp [runningPairs, (causal_running _ _).length, neighbours]
  take := fun n xs => by
    cases xs with
    | nil => simp [runningPairs]
    | cons x xs =>
        cases n with
        | zero => rfl
        | succ n =>
            have hpairs := neighbours_take_succ (Prod.mk (α := α) (β := α)) n (x :: xs)
            rw [List.take_succ_cons] at hpairs ⊢
            simp only [runningPairs, hpairs, (causal_running _ _).take, List.take_succ_cons]

/-! ### Series with gaps -/

/-- Values that are put into the places where something stands. -/
def scatter : List (Option α) → List (Option β) → List (Option β)
  | [], _ => []
  | none :: xs, ys => none :: scatter xs ys
  | some _ :: xs, [] => none :: scatter xs []
  | some _ :: xs, y :: ys => y :: scatter xs ys

theorem length_scatter (xs : List (Option α)) (ys : List (Option β)) :
    (scatter xs ys).length = xs.length := by
  induction xs generalizing ys with
  | nil => rfl
  | cons x xs ih =>
      cases x with
      | none => simp [scatter, ih]
      | some a =>
          cases ys with
          | nil => simp [scatter, ih]
          | cons y ys => simp [scatter, ih]

theorem scatter_take (n : ℕ) (xs : List (Option α)) (ys : List (Option β)) :
    scatter (xs.take n) (ys.take (xs.take n).reduceOption.length) = (scatter xs ys).take n := by
  induction xs generalizing n ys with
  | nil => simp [scatter]
  | cons x xs ih =>
      cases n with
      | zero => rfl
      | succ n =>
          cases x with
          | none => simp [scatter, List.reduceOption_cons_of_none, ih]
          | some a =>
              cases ys with
              | nil =>
                  have hrest := ih n ([] : List (Option β))
                  rw [List.take_nil] at hrest
                  simp [scatter, hrest]
              | cons y ys => simp [scatter, List.reduceOption_cons_of_some, ih]

theorem reduceOption_take (n : ℕ) (xs : List (Option α)) :
    (xs.take n).reduceOption = xs.reduceOption.take (xs.take n).reduceOption.length := by
  have hstart : (xs.take n).reduceOption <+: xs.reduceOption := by
    conv_rhs => rw [← List.take_append_drop n xs, List.reduceOption_append]
    exact List.prefix_append _ _
  exact List.prefix_iff_eq_take.1 hstart

/-- What is causal in the values that stand in a series is causal in the series. -/
theorem Causal.scatter {g : List α → List (Option β)} (hg : Causal g) :
    Causal fun xs : List (Option α) => Collection.scatter xs (g xs.reduceOption) where
  length := fun xs => length_scatter _ _
  take := fun n xs => by
    rw [reduceOption_take, hg.take, scatter_take]

theorem scatter_replicate_none (xs : List (Option α)) (n : ℕ) :
    scatter xs (List.replicate n (none : Option β)) = xs.map fun _ => none := by
  induction xs generalizing n with
  | nil => rfl
  | cons x xs ih =>
      cases x with
      | none => simp [scatter, ih]
      | some a =>
          cases n with
          | zero => simpa [scatter] using ih 0
          | succ n => simp [List.replicate_succ, scatter, ih]

end Collection
