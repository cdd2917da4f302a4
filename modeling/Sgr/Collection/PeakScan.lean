import Mathlib.Data.List.Basic
import Mathlib.Order.Bounds.Basic

/-!
# Scans with a running peak

Of all pairs of places of a list, the first not after the second, one pass finds a pair at which
a figure is greatest if the figure grows with its first argument. It keeps the greatest element
so far, and compares each element with that one only.
-/

namespace Collection

/-- What a scan keeps: the greatest element so far and its place, and the greatest figure so far
with the places of its pair. -/
structure PeakScan (α β : Type*) where
  peak : α
  worst : β
  worstStart : ℕ
  worstEnd : ℕ
  start : ℕ

namespace PeakScan

section Scan

/-- The figures of all pairs of places in order. -/
def figures {α β : Type*} (f : α → α → β) (xs : List α) : Set β :=
  {d | ∃ (i j : ℕ) (x y : α), i ≤ j ∧ xs[i]? = some x ∧ xs[j]? = some y ∧ d = f x y}

variable {α β : Type*} [LinearOrder α]

/-- An element is taken as the new peak if it is greater. -/
def raise (s : PeakScan α β) (x : α) (i : ℕ) : PeakScan α β :=
  if s.peak < x then { s with peak := x, start := i } else s

/-- The peak is the greatest of the first elements, and stands at its place. -/
structure AtPeak (xs : List α) (k : ℕ) (s : PeakScan α β) : Prop where
  peak : xs[s.start]? = some s.peak
  start_le : s.start ≤ k
  le_peak : ∀ i < k, ∀ x, xs[i]? = some x → x ≤ s.peak

variable {f : α → α → β} {xs : List α} {k : ℕ} {s : PeakScan α β} {x : α}

theorem AtPeak.raise (h : s.AtPeak xs k) (hx : xs[k]? = some x) :
    (s.raise x k).AtPeak xs (k + 1) := by
  have hbefore : ∀ i < k + 1, ∀ y, xs[i]? = some y → i < k ∨ y = x := by
    intro i hi y hy
    rcases Nat.lt_succ_iff_lt_or_eq.1 hi with hlt | rfl
    · exact .inl hlt
    · rw [hx] at hy
      cases hy
      exact .inr rfl
  rw [PeakScan.raise]
  split
  next hlt =>
    refine ⟨hx, Nat.le_succ k, fun i hi y hy => ?_⟩
    rcases hbefore i hi y hy with hik | rfl
    · exact (h.le_peak i hik y hy).trans hlt.le
    · exact le_rfl
  next hge =>
    refine ⟨h.peak, h.start_le.trans (Nat.le_succ k), fun i hi y hy => ?_⟩
    rcases hbefore i hi y hy with hik | rfl
    · exact h.le_peak i hik y hy
    · exact not_lt.1 hge

theorem start_raise_le (h : s.start ≤ k) : (s.raise x k).start ≤ k := by
  rw [raise]
  split
  · exact le_rfl
  · exact h

variable [LinearOrder β]

/-- An element is compared with the peak. -/
def compare (f : α → α → β) (s : PeakScan α β) (x : α) (i : ℕ) : PeakScan α β :=
  if s.worst < f s.peak x then
    { s with worst := f s.peak x, worstStart := s.start, worstEnd := i }
  else s

/-- The scan of a list whose first element stands at a place. -/
def scan (f : α → α → β) : List α → ℕ → PeakScan α β → PeakScan α β
  | [], _, s => s
  | x :: xs, i, s => scan f xs (i + 1) ((s.raise x i).compare f x i)

/-- The greatest figure of the first elements is found, and attained at its places. -/
structure AtWorst (f : α → α → β) (xs : List α) (k : ℕ) (s : PeakScan α β) : Prop where
  attained : ∃ x y, s.worstStart ≤ s.worstEnd ∧ xs[s.worstStart]? = some x ∧
    xs[s.worstEnd]? = some y ∧ s.worst = f x y
  le_worst : ∀ i j x y, i ≤ j → j < k → xs[i]? = some x → xs[j]? = some y → f x y ≤ s.worst

/-- Raising the peak leaves the greatest figure as it is. -/
theorem AtWorst.raise (h : s.AtWorst f xs k) (x : α) (i : ℕ) : (s.raise x i).AtWorst f xs k := by
  rw [PeakScan.raise]
  split
  · exact ⟨h.attained, h.le_worst⟩
  · exact h

theorem AtPeak.compare (h : s.AtPeak xs k) (x : α) (i : ℕ) : (s.compare f x i).AtPeak xs k := by
  rw [PeakScan.compare]
  split
  · exact ⟨h.peak, h.start_le, h.le_peak⟩
  · exact h

/-- The figure of an element with the peak is the greatest of its figures with the elements
before it. -/
theorem AtWorst.compare (h : s.AtWorst f xs k) (hpeak : s.AtPeak xs (k + 1))
    (hstart : s.start ≤ k) (hx : xs[k]? = some x)
    (hf : ∀ y ∈ xs, ∀ z ∈ xs, y ≤ z → ∀ w ∈ xs, f y w ≤ f z w) :
    (s.compare f x k).AtWorst f xs (k + 1) := by
  have hlast : ∀ i y, i ≤ k → xs[i]? = some y → f y x ≤ f s.peak x := fun i y hi hy =>
    hf y (List.mem_of_getElem? hy) s.peak (List.mem_of_getElem? hpeak.peak)
      (hpeak.le_peak i (Nat.lt_succ_of_le hi) y hy) x (List.mem_of_getElem? hx)
  have hcases : ∀ m, s.worst ≤ m → f s.peak x ≤ m → ∀ i j y z, i ≤ j → j < k + 1 →
      xs[i]? = some y → xs[j]? = some z → f y z ≤ m := by
    intro m hworst hpair i j y z hij hj hy hz
    rcases Nat.lt_succ_iff_lt_or_eq.1 hj with hlt | rfl
    · exact (h.le_worst i j y z hij hlt hy hz).trans hworst
    · rw [hx] at hz
      cases hz
      exact (hlast i y hij hy).trans hpair
  rw [PeakScan.compare]
  split
  next hlt =>
    exact ⟨⟨s.peak, x, hstart, hpeak.peak, hx, rfl⟩, hcases _ hlt.le le_rfl⟩
  next hge => exact ⟨h.attained, hcases _ le_rfl (not_lt.1 hge)⟩

/-- The scan of what is left of a list comes to the greatest figure of the whole list. -/
theorem AtWorst.scan (hf : ∀ y ∈ xs, ∀ z ∈ xs, y ≤ z → ∀ w ∈ xs, f y w ≤ f z w)
    {rest : List α} (hrest : xs.drop k = rest) (hpeak : s.AtPeak xs k)
    (h : s.AtWorst f xs k) : (PeakScan.scan f rest k s).AtWorst f xs xs.length := by
  induction rest generalizing k s with
  | nil =>
      have hk : xs.length ≤ k := List.drop_eq_nil_iff.1 hrest
      exact ⟨h.attained, fun i j x y hij hj => h.le_worst i j x y hij (hj.trans_le hk)⟩
  | cons x rest ih =>
      have hx : xs[k]? = some x := by rw [← List.head?_drop, hrest, List.head?_cons]
      have hdrop : xs.drop (k + 1) = rest := by rw [← List.tail_drop, hrest, List.tail_cons]
      have hraised := hpeak.raise hx
      exact ih hdrop (hraised.compare x k)
        ((h.raise x k).compare hraised (start_raise_le hpeak.start_le) hx hf)

/-- The scan of a list finds its greatest figure, and two places where it stands. -/
theorem atWorst_scan (hf : ∀ y ∈ xs, ∀ z ∈ xs, y ≤ z → ∀ w ∈ xs, f y w ≤ f z w)
    (hx : xs.head? = some x) :
    (scan f xs 0 ⟨x, f x x, 0, 0, 0⟩).AtWorst f xs xs.length := by
  have hfirst : xs[0]? = some x := by rw [← List.head?_eq_getElem?, hx]
  refine AtWorst.scan hf List.drop_zero ⟨hfirst, le_rfl, fun i hi => absurd hi (Nat.not_lt_zero i)⟩
    ⟨⟨x, x, le_rfl, hfirst, hfirst, rfl⟩, fun i j _ _ _ hj => absurd hj (Nat.not_lt_zero j)⟩

omit [LinearOrder α] in
/-- What is found is the greatest of all figures. -/
theorem AtWorst.isGreatest (h : s.AtWorst f xs xs.length) : IsGreatest (figures f xs) s.worst := by
  obtain ⟨x, y, hle, hx, hy, hworst⟩ := h.attained
  refine ⟨⟨_, _, x, y, hle, hx, hy, hworst⟩, ?_⟩
  rintro d ⟨i, j, x', y', hij, hx', hy', rfl⟩
  exact h.le_worst i j x' y' hij (List.getElem?_eq_some_iff.1 hy').1 hx' hy'

end Scan

end PeakScan

end Collection
