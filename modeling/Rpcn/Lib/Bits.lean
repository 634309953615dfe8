/-
  File:      Rpcn/Lib/Bits.lean
  Subject:   FLAGS IN A 32-BIT WORD: setting, clearing and filtering the bits of a mask. And two
             tests of a 64-bit mask: of the bit at a position, and of the position itself.
-/
import Mathlib.Data.Nat.Bitwise
import Mathlib.Data.UInt
import Mathlib.Tactic.Common

namespace Rpcn.Lib.Bits

theorem ext {a b : UInt32} (h : ∀ i < 32, a.toBitVec.getLsbD i = b.toBitVec.getLsbD i) : a = b :=
  UInt32.toBitVec_inj.mp (BitVec.eq_of_getLsbD_eq h)

theorem or_and_self (x mask : UInt32) : (x ||| mask) &&& mask = mask := by
  refine ext fun i _ => ?_
  simp only [UInt32.toBitVec_and, UInt32.toBitVec_or, BitVec.getLsbD_and, BitVec.getLsbD_or]
  cases x.toBitVec.getLsbD i <;> cases mask.toBitVec.getLsbD i <;> rfl

theorem and_not_and_self (x mask : UInt32) : (x &&& ~~~mask) &&& mask = 0 := by
  refine ext fun i hi => ?_
  simp only [UInt32.toBitVec_and, UInt32.toBitVec_not, BitVec.getLsbD_and, BitVec.getLsbD_not, hi,
    decide_true, Bool.true_and]
  cases x.toBitVec.getLsbD i <;> cases mask.toBitVec.getLsbD i <;> simp

theorem filtered_and_self (new filter mask old : UInt32) :
    ((new &&& ~~~mask) &&& (filter &&& ~~~mask) ||| old &&& ~~~(filter &&& ~~~mask)) &&& mask =
      old &&& mask := by
  refine ext fun i hi => ?_
  simp only [UInt32.toBitVec_and, UInt32.toBitVec_or, UInt32.toBitVec_not, BitVec.getLsbD_and,
    BitVec.getLsbD_or, BitVec.getLsbD_not, hi, decide_true, Bool.true_and]
  cases new.toBitVec.getLsbD i <;> cases filter.toBitVec.getLsbD i <;>
    cases mask.toBitVec.getLsbD i <;> cases old.toBitVec.getLsbD i <;> rfl

theorem toNat_toUInt64 {k : Nat} (h : k < 64) : k.toUInt64.toNat = k :=
  UInt64.toNat_ofNat_of_lt' (Nat.lt_of_lt_of_le h (by decide))

theorem and_shiftLeft_ne_zero (mask : UInt64) {k : Nat} (h : k < 64) :
    mask &&& ((1 : UInt64) <<< k.toUInt64) ≠ 0 ↔ mask.toNat.testBit k = true := by
  have hbit : ((1 : UInt64) <<< k.toUInt64).toNat = 2 ^ k := by
    rw [UInt64.toNat_shiftLeft, toNat_toUInt64 h, Nat.mod_eq_of_lt h, Nat.shiftLeft_eq]
    exact (congrArg (· % 2 ^ 64) (Nat.one_mul _)).trans
      (Nat.mod_eq_of_lt (Nat.pow_lt_pow_right (by decide) h))
  rw [Ne, ← UInt64.toNat_inj, UInt64.toNat_and, hbit, Nat.and_two_pow]
  cases mask.toNat.testBit k <;> simp

theorem and_position_ne_zero (mask : UInt64) {k : Nat} (h : k < 64) :
    mask &&& k.toUInt64 ≠ 0 ↔ mask.toNat % 64 &&& k ≠ 0 := by
  have hsmall : mask.toNat &&& k = mask.toNat % 64 &&& k := by
    calc mask.toNat &&& k = (mask.toNat &&& k) % 2 ^ 6 :=
          (Nat.mod_eq_of_lt (Nat.lt_of_le_of_lt Nat.and_le_right h)).symm
      _ = mask.toNat % 64 &&& k := by rw [Nat.and_mod_two_pow, Nat.mod_eq_of_lt (a := k) h]
  rw [Ne, ← UInt64.toNat_inj, UInt64.toNat_and, toNat_toUInt64 h, hsmall]
  rfl

end Rpcn.Lib.Bits
