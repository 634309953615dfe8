/-
  File:      Rpcn/Lib/BinarySearch.lean
  Subject:   BINARY SEARCH with a comparison, as `slice::binary_search_by` runs it.

  The loop halves a window `[base, base + size)` and has no early exit: a probe that is `Greater`
  keeps the base, any other moves it to the probe. The element left decides the answer.
-/
import Mathlib.Tactic.Common

namespace Rpcn.Lib

variable {α : Type}

/-- The loop: `fuel` bounds the rounds, the window never needs more rounds than its size. -/
def probeLoop (f : α → Ordering) (xs : List α) : Nat → Nat → Nat → Nat
  | 0, base, _ => base
  | fuel + 1, base, size =>
    if size ≤ 1 then base
    else
      let half := size / 2
      let mid := base + half
      probeLoop f xs fuel (if xs[mid]?.map f = some .gt then base else mid) (size - half)

def binarySearchBy (f : α → Ordering) (xs : List α) : Except Nat Nat :=
  if xs.length = 0 then .error 0
  else
    let base := probeLoop f xs xs.length 0 xs.length
    match xs[base]?.map f with
    | some .eq => .ok base
    | some .lt => .error (base + 1)
    | _ => .error base

structure Splits (f : α → Ordering) (xs : List α) (k : Nat) : Prop where
  le : k ≤ xs.length
  low : ∀ i, i < k → xs[i]?.map f = some .lt
  high : ∀ i, k ≤ i → i < xs.length → xs[i]?.map f = some .gt

theorem splits_append {f : α → Ordering} {as bs : List α} (ha : ∀ a ∈ as, f a = .lt)
    (hb : ∀ b ∈ bs, f b = .gt) : Splits f (as ++ bs) as.length := by
  refine ⟨?_, ?_, ?_⟩
  · simp
  · intro i hi
    rw [List.getElem?_append_left hi, List.getElem?_eq_getElem hi]
    simp [ha]
  · intro i hk hi
    rw [List.length_append] at hi
    have hlt : i - as.length < bs.length := by omega
    rw [List.getElem?_append_right hk, List.getElem?_eq_getElem hlt]
    simp [hb]

theorem probeLoop_border {f : α → Ordering} {xs : List α} {k : Nat} (h : Splits f xs k)
    (fuel base size : Nat) (hfuel : size ≤ fuel + 1) (hsize : 0 < size)
    (hin : base + size ≤ xs.length) (hlow : base = 0 ∨ base < k) (hhigh : k ≤ base + size) :
    let b := probeLoop f xs fuel base size
    (b = 0 ∨ b < k) ∧ k ≤ b + 1 := by
  induction fuel generalizing base size with
  | zero =>
    have h1 : size = 1 := by omega
    subst h1
    exact ⟨hlow, hhigh⟩
  | succ fuel ih =>
    unfold probeLoop
    by_cases h1 : size ≤ 1
    · have h2 : size = 1 := by omega
      subst h2
      simpa using ⟨hlow, hhigh⟩
    · rw [if_neg h1]
      have hhalf : 0 < size / 2 := by omega
      by_cases hmid : k ≤ base + size / 2
      · -- the probe is at or past the border: the window keeps its base
        have hgt := h.high (base + size / 2) hmid (by omega)
        simp only [hgt, if_true]
        exact ih base (size - size / 2) (by omega) (by omega) (by omega) hlow (by omega)
      · have hlt := h.low (base + size / 2) (by omega)
        simp only [hlt, Option.some.injEq, reduceCtorEq, if_false]
        exact ih (base + size / 2) (size - size / 2) (by omega) (by omega) (by omega)
          (Or.inr (by omega)) (by omega)

theorem binarySearchBy_of_splits {f : α → Ordering} {xs : List α} {k : Nat}
    (h : Splits f xs k) : binarySearchBy f xs = .error k := by
  unfold binarySearchBy
  by_cases h0 : xs.length = 0
  · have hk : k = 0 := by
      have := h.le
      omega
    rw [if_pos h0, hk]
  · rw [if_neg h0]
    obtain ⟨hlow, hhigh⟩ := probeLoop_border h xs.length 0 xs.length (by omega) (by omega)
      (by omega) (Or.inl rfl) (by simpa using h.le)
    by_cases hb : probeLoop f xs xs.length 0 xs.length < k
    · have hk : k = probeLoop f xs xs.length 0 xs.length + 1 := by omega
      simp only [h.low _ hb]
      rw [← hk]
    · -- the base never moved, and the border is at the front
      have hb0 : probeLoop f xs xs.length 0 xs.length = 0 := by omega
      have hk : k = 0 := by omega
      have hgt := h.high 0 (by omega) (by omega)
      simp only [hb0, hgt, hk]

theorem binarySearchBy_append {f : α → Ordering} {as bs : List α} (ha : ∀ a ∈ as, f a = .lt)
    (hb : ∀ b ∈ bs, f b = .gt) : binarySearchBy f (as ++ bs) = .error as.length :=
  binarySearchBy_of_splits (splits_append ha hb)

theorem insertIdx_append_length (a : α) (as bs : List α) :
    (as ++ bs).insertIdx as.length a = as ++ a :: bs := by
  induction as with
  | nil => simp
  | cons x as ih => simp [ih]

example : binarySearchBy (fun n : Nat => compare n 5) [1, 2, 4, 6, 9, 11] = .error 3 := by decide

end Rpcn.Lib
