/-
  File:      Rpcn/Lib/Double.lean
  Subject:   WHOLE NUMBERS AS DOUBLES: rounding to 53 bits, ties to even.
-/
import Mathlib.Data.Nat.Log
import Mathlib.Tactic.IntervalCases
import Mathlib.Tactic.Ring

namespace Rpcn.Lib

def roundShift (n : Nat) : Nat := n.log2 - 52

def roundNat (n : Nat) : Nat :=
  let unit := 2 ^ roundShift n
  if 2 * (n % unit) > unit ∨ (2 * (n % unit) = unit ∧ n / unit % 2 = 1) then
    (n / unit + 1) * unit
  else n / unit * unit

def roundDouble (x : Int) : Int :=
  if x < 0 then -(roundNat x.natAbs : Int) else (roundNat x.natAbs : Int)

theorem div_mul_le_roundNat (n : Nat) :
    n / 2 ^ roundShift n * 2 ^ roundShift n ≤ roundNat n := by
  unfold roundNat
  dsimp only
  split
  · exact Nat.mul_le_mul_right _ (Nat.le_succ _)
  · exact Nat.le_refl _

variable {n k : Nat}

theorem le_roundNat_of_pow_le (h : 2 ^ k ≤ n) : 2 ^ k ≤ roundNat n := by
  have hn : n ≠ 0 := fun e => by simp [e] at h
  have hk : k ≤ n.log2 := (Nat.le_log2 hn).mpr h
  refine Nat.le_trans ?_ (div_mul_le_roundNat n)
  by_cases hs : roundShift n ≤ k
  · -- the power is a number of whole units
    obtain ⟨d, rfl⟩ := Nat.exists_eq_add_of_le hs
    rw [Nat.pow_add, Nat.mul_comm] at h ⊢
    exact Nat.mul_le_mul_right _ ((Nat.le_div_iff_mul_le (Nat.two_pow_pos _)).mpr h)
  · have hlog : 2 ^ n.log2 ≤ n := Nat.log2_self_le hn
    have hsplit : n.log2 = (n.log2 - roundShift n) + roundShift n := by
      unfold roundShift
      omega
    rw [hsplit, Nat.pow_add] at hlog
    have hq := (Nat.le_div_iff_mul_le (Nat.two_pow_pos (roundShift n))).mpr hlog
    calc 2 ^ k ≤ 2 ^ n.log2 := Nat.pow_le_pow_right (by decide) hk
      _ = 2 ^ (n.log2 - roundShift n) * 2 ^ roundShift n := by rw [← Nat.pow_add, ← hsplit]
      _ ≤ n / 2 ^ roundShift n * 2 ^ roundShift n := Nat.mul_le_mul_right _ hq

variable {x : Int}

theorem roundDouble_of_nonneg (h : 0 ≤ x) : roundDouble x = roundNat x.natAbs :=
  if_neg (not_lt.mpr h)

end Rpcn.Lib
