/-
  File:      Rpcn/Lib/Counter.lean
  Subject:   IDS FROM 64-BIT COUNTERS, one counter for each key.

  A counter that starts below 1 and is advanced before each use numbers what it hands out by
  1, 2, 3, ... modulo 2^64. `Numbered l` says that the list `l` of handed out pairs was numbered so.
  No pair occurs twice exactly as long as no key was used more than 2^64 times
  (`Numbered.nodup_iff`).
-/
import Mathlib

namespace Rpcn.Lib

variable {K : Type} [DecidableEq K]

/-- How often the counter of `k` was used. -/
def uses (l : List (K × UInt64)) (k : K) : Nat := l.countP fun p => p.1 = k

theorem uses_append (l l' : List (K × UInt64)) (k : K) :
    uses (l ++ l') k = uses l k + uses l' k := List.countP_append

theorem uses_singleton (k k' : K) (i : UInt64) :
    uses [(k, i)] k' = if k = k' then 1 else 0 := by
  by_cases h : k = k' <;> simp [uses, h]

theorem uses_le_append (l l' : List (K × UInt64)) (k : K) : uses l k ≤ uses (l ++ l') k := by
  rw [uses_append]
  exact Nat.le_add_right _ _

inductive Numbered : List (K × UInt64) → Prop where
  | nil : Numbered []
  | snoc {l : List (K × UInt64)} (k : K) (h : Numbered l) :
      Numbered (l ++ [(k, UInt64.ofNat (uses l k + 1))])

theorem Numbered.mem {l : List (K × UInt64)} (h : Numbered l) {k : K} {i : UInt64}
    (hm : (k, i) ∈ l) : ∃ j, 1 ≤ j ∧ j ≤ uses l k ∧ i = UInt64.ofNat j := by
  induction h with
  | nil => cases hm
  | snoc k' h ih =>
    rw [uses_append]
    rcases List.mem_append.mp hm with hm | hm
    · obtain ⟨j, h1, h2, h3⟩ := ih hm
      exact ⟨j, h1, by omega, h3⟩
    · obtain ⟨rfl, rfl⟩ := Prod.mk.inj (List.mem_singleton.mp hm)
      rw [uses_singleton, if_pos rfl]
      exact ⟨_, by omega, Nat.le_refl _, rfl⟩

theorem ofNat_ne_of_lt {a b : Nat} (hab : a < b) (hb : b < a + 2 ^ 64) :
    UInt64.ofNat a ≠ UInt64.ofNat b := by
  intro e
  have e' := congrArg UInt64.toNat e
  rw [UInt64.toNat_ofNat', UInt64.toNat_ofNat'] at e'
  omega

theorem Numbered.fresh {l : List (K × UInt64)} (h : Numbered l) {k : K} (hk : uses l k < 2 ^ 64) :
    (k, UInt64.ofNat (uses l k + 1)) ∉ l := by
  intro hm
  obtain ⟨j, h1, h2, h3⟩ := h.mem hm
  exact ofNat_ne_of_lt (a := j) (b := uses l k + 1) (by omega) (by omega) h3.symm

theorem Numbered.nodup {l : List (K × UInt64)} (h : Numbered l) (hb : ∀ k, uses l k ≤ 2 ^ 64) :
    l.Nodup := by
  induction h with
  | nil => exact List.nodup_nil
  | @snoc l k h ih =>
    have hlt : uses l k < 2 ^ 64 := by
      have := hb k
      rw [uses_append, uses_singleton, if_pos rfl] at this
      omega
    rw [List.nodup_append]
    refine ⟨ih fun k' => Nat.le_trans (uses_le_append _ _ _) (hb k'), List.nodup_singleton _, ?_⟩
    intro p hp q hq e
    rw [List.mem_singleton.mp hq] at e
    rw [e] at hp
    exact h.fresh hlt hp

theorem uses_le_of_nodup {l : List (K × UInt64)} (h : l.Nodup) (k : K) : uses l k ≤ 2 ^ 64 := by
  have hf : (l.filter fun p => p.1 = k).Nodup := h.filter _
  have hm : ((l.filter fun p => p.1 = k).map fun p => p.2.toNat).Nodup := by
    refine hf.map_on fun p hp q hq e => ?_
    have hp := (List.mem_filter.mp hp).2
    have hq := (List.mem_filter.mp hq).2
    rw [decide_eq_true_eq] at hp hq
    exact Prod.ext (hp.trans hq.symm) (UInt64.toNat_inj.mp e)
  have hsub : ((l.filter fun p => p.1 = k).map fun p => p.2.toNat) ⊆ List.range (2 ^ 64) := by
    intro n hn
    obtain ⟨p, _, rfl⟩ := List.mem_map.mp hn
    exact List.mem_range.mpr p.2.toNat_lt
  have hlen := (List.subperm_of_subset hm hsub).length_le
  rwa [List.length_map, List.length_range, ← List.countP_eq_length_filter] at hlen

theorem Numbered.nodup_iff {l : List (K × UInt64)} (h : Numbered l) :
    l.Nodup ↔ ∀ k, uses l k ≤ 2 ^ 64 :=
  ⟨uses_le_of_nodup, h.nodup⟩

end Rpcn.Lib
