/-
  File:      Rpcn/Lib/Paging.lean
  Subject:   A LIST READ PAGE BY PAGE.

  A client that asks for pages of `size` elements, one after the other until one is empty, sees the
  list: each element once, in order, every page but the last one full.
-/
import Mathlib.Algebra.Group.Nat.Defs
import Mathlib.Data.List.Basic
import Mathlib.Tactic.Common

namespace Rpcn.Lib.Paging

variable {α : Type}

/-! ## 1. The pages of a list -/

/-- Page `k`, counted from 0. -/
def slice (l : List α) (size k : Nat) : List α := (l.drop (k * size)).take size

theorem slice_length (l : List α) (size k : Nat) :
    (slice l size k).length = min size (l.length - k * size) := by
  rw [slice, List.length_take, List.length_drop]

theorem slice_eq_nil_iff (l : List α) {size k : Nat} (hsize : 0 < size) :
    slice l size k = [] ↔ l.length ≤ k * size := by
  rw [← List.length_eq_zero_iff, slice_length]
  omega

theorem flatten_slices (l : List α) (size n : Nat) :
    ((List.range n).map (slice l size)).flatten = l.take (n * size) := by
  induction n with
  | zero => simp
  | succ n ih =>
    rw [List.range_succ, List.map_append, List.flatten_append, ih, Nat.succ_mul, List.take_add]
    simp [slice]

def pageCount (len size : Nat) : Nat := (len + size - 1) / size

theorem lt_pageCount_iff {len size k : Nat} (hsize : 0 < size) :
    k < pageCount len size ↔ k * size < len := by
  rw [pageCount, Nat.lt_div_iff_mul_lt hsize]
  omega

theorem pageCount_mul_le (len size : Nat) :
    pageCount len size * size ≤ len + size - 1 := Nat.div_mul_le_self _ _

/-! ## 2. Asking for them -/

/-- **Pages until an empty one.** `ask k` is the reply to the request for page `k`, a total and the
    elements. -/
structure Pages (ask : Nat → Option (Nat × List α)) (size : Nat) (all : List α) (n : Nat)
    (page : Nat → List α) : Prop where
  reply : ∀ k, k ≤ n → ask k = some (all.length, page k)
  nonempty : ∀ k, k < n → page k ≠ []
  stop : page n = []
  full : ∀ k, k + 1 < n → (page k).length = size
  concat : ((List.range n).map page).flatten = all

theorem pages_of_slices {ask : Nat → Option (Nat × List α)} {size : Nat} {all : List α}
    (hsize : 0 < size)
    (h : ∀ k, k * size < all.length + size → ask k = some (all.length, slice all size k)) :
    Pages ask size all (pageCount all.length size) (slice all size) where
  reply k hk := by
    have hle := Nat.mul_le_mul_right size hk
    have hcount := pageCount_mul_le all.length size
    exact h k (by omega)
  nonempty k hk := by
    rw [Ne, slice_eq_nil_iff all hsize, Nat.not_le]
    exact (lt_pageCount_iff hsize).mp hk
  stop := by
    rw [slice_eq_nil_iff all hsize, ← Nat.not_lt]
    exact fun h => Nat.lt_irrefl _ ((lt_pageCount_iff hsize).mpr h)
  full k hk := by
    have hlt := (lt_pageCount_iff hsize).mp hk
    rw [slice_length]
    rw [Nat.succ_mul] at hlt
    omega
  concat := by
    rw [flatten_slices, List.take_of_length_le]
    exact Nat.not_lt.mp fun h => Nat.lt_irrefl _ ((lt_pageCount_iff hsize).mpr h)

/-! ## 3. The range of a page -/

def first (start : UInt32) : UInt32 := if start = 0 then 1 else start

/-- A number of elements, where 0 and what is over the cap are taken for the cap. -/
def limit (cap max : UInt32) : UInt32 := if max = 0 ∨ max > cap then cap else max

theorem one_le_first (start : UInt32) : 1 ≤ (first start).toNat := by
  rw [first]
  split
  · decide
  · rename_i hne
    exact Nat.one_le_iff_ne_zero.mpr fun e => hne (UInt32.toNat_inj.mp e)

theorem range_le (start max cap : UInt32) {len : Nat} (h : len ≥ (first start).toNat) :
    1 ≤ (first start).toNat ∧ (first start).toNat - 1 ≤ len ∧
      (first start).toNat - 1 + min (len - ((first start).toNat - 1)) (limit cap max).toNat ≤
        len := by
  have hpos := one_le_first start
  omega

theorem first_page {size k : Nat} (h : k * size + 1 < 2 ^ 32) :
    (first (k * size + 1).toUInt32).toNat = k * size + 1 := by
  have e : (k * size + 1).toUInt32.toNat = k * size + 1 := UInt32.toNat_ofNat_of_lt' h
  have hne : (k * size + 1).toUInt32 ≠ 0 := by
    intro h0
    rw [h0] at e
    exact absurd e (Nat.succ_ne_zero _).symm
  rw [first, if_neg hne, e]

theorem limit_of_le {cap size : UInt32} (h1 : 1 ≤ size) (hcap : size ≤ cap) :
    limit cap size = size := by
  rw [limit, if_neg]
  intro h
  rcases h with h | h
  · rw [h] at h1
    exact absurd h1 (by decide)
  · exact absurd h (UInt32.not_lt.mpr hcap)

theorem take_min_eq_slice (l : List α) (size k : Nat) :
    (l.drop (k * size)).take (min (l.length - k * size) size) = slice l size k := by
  rw [slice, List.take_eq_take_iff, List.length_drop]
  omega

end Rpcn.Lib.Paging
