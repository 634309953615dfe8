/-
  File:      Rpcn/Lib/Bytes.lean
  Subject:   NUMBERS AS BYTES, and reading a byte string from its front.
-/
import Mathlib.Algebra.Group.Nat.Defs
import Mathlib.Data.List.Basic

namespace Rpcn.Lib

/-! ## 1. Numbers -/

/-- `n` in `w` bytes, the lowest first. -/
def leBytes : Nat → Nat → List UInt8
  | 0, _ => []
  | w + 1, n => UInt8.ofNat n :: leBytes w (n / 256)

def ofLe : List UInt8 → Nat
  | [] => 0
  | b :: bs => b.toNat + 256 * ofLe bs

@[simp] theorem length_leBytes : ∀ (w n : Nat), (leBytes w n).length = w
  | 0, _ => rfl
  | w + 1, n => congrArg (· + 1) (length_leBytes w (n / 256))

theorem ofLe_lt : ∀ bs : List UInt8, ofLe bs < 256 ^ bs.length
  | [] => Nat.one_pos
  | b :: bs => by
      have hb := b.toNat_lt
      have hbs := ofLe_lt bs
      rw [ofLe, List.length_cons, Nat.pow_succ]
      omega

theorem ofLe_leBytes : ∀ (w n : Nat), n < 256 ^ w → ofLe (leBytes w n) = n
  | 0, n, h => by
      rw [Nat.pow_zero] at h
      rw [leBytes, ofLe]
      omega
  | w + 1, n, h => by
      rw [Nat.pow_succ] at h
      have hrest := ofLe_leBytes w (n / 256) (by omega)
      rw [leBytes, ofLe, hrest, UInt8.toNat_ofNat']
      omega

theorem leBytes_ofLe : ∀ bs : List UInt8, leBytes bs.length (ofLe bs) = bs
  | [] => rfl
  | b :: bs => by
      have hb := b.toNat_lt
      have hlow : UInt8.ofNat (b.toNat + 256 * ofLe bs) = b := by
        refine UInt8.toNat_inj.mp ?_
        rw [UInt8.toNat_ofNat']
        omega
      have hhigh : (b.toNat + 256 * ofLe bs) / 256 = ofLe bs := by omega
      rw [ofLe, List.length_cons, leBytes, hlow, hhigh, leBytes_ofLe bs]

/-- `n` in `w` bytes, the highest first. -/
def beBytes (w n : Nat) : List UInt8 := (leBytes w n).reverse

def ofBe (bs : List UInt8) : Nat := ofLe bs.reverse

@[simp] theorem length_beBytes (w n : Nat) : (beBytes w n).length = w := by
  rw [beBytes, List.length_reverse, length_leBytes]

theorem ofBe_beBytes {w n : Nat} (h : n < 256 ^ w) : ofBe (beBytes w n) = n := by
  rw [ofBe, beBytes, List.reverse_reverse, ofLe_leBytes w n h]

/-! ## 2. Reading from the front -/

def readBytes (n : Nat) (input : List UInt8) : Option (List UInt8 × List UInt8) :=
  if n ≤ input.length then some (input.take n, input.drop n) else none

theorem readBytes_append (bytes rest : List UInt8) :
    readBytes bytes.length (bytes ++ rest) = some (bytes, rest) := by
  rw [readBytes, if_pos (by rw [List.length_append]; omega), List.take_left, List.drop_left]

def readNul : List UInt8 → Option (List UInt8 × List UInt8)
  | [] => none
  | b :: bs => if b = 0 then some ([], bs) else (readNul bs).map fun r => (b :: r.1, r.2)

theorem readNul_append : ∀ (bytes rest : List UInt8), 0 ∉ bytes →
    readNul (bytes ++ 0 :: rest) = some (bytes, rest)
  | [], rest, _ => by rw [List.nil_append, readNul, if_pos rfl]
  | b :: bytes, rest, h => by
      rw [List.mem_cons, not_or] at h
      rw [List.cons_append, readNul, if_neg (Ne.symm h.1), readNul_append bytes rest h.2]
      rfl

theorem zero_notMem_readNul : ∀ {input bytes rest : List UInt8},
    readNul input = some (bytes, rest) → 0 ∉ bytes
  | [], _, _, h => by cases h
  | b :: bs, bytes, rest, h => by
      rw [readNul] at h
      split at h
      · cases h
        exact List.not_mem_nil
      · rename_i hb
        obtain ⟨⟨bytes', rest'⟩, hread, h⟩ := Option.map_eq_some_iff.mp h
        cases h
        rw [List.mem_cons, not_or]
        exact ⟨Ne.symm hb, zero_notMem_readNul hread⟩

theorem readNul_eq_iff {bytes rest r : List UInt8} :
    readNul (bytes ++ 0 :: rest) = some (bytes, r) ↔ 0 ∉ bytes ∧ r = rest := by
  constructor
  · intro h
    have hzero := zero_notMem_readNul h
    rw [readNul_append bytes rest hzero] at h
    cases h
    exact ⟨hzero, rfl⟩
  · rintro ⟨hzero, rfl⟩
    exact readNul_append bytes r hzero

theorem readBytes_eq_iff {n : Nat} {bytes rest r : List UInt8} :
    readBytes n (bytes ++ rest) = some (bytes, r) ↔ n = bytes.length ∧ r = rest := by
  constructor
  · intro h
    unfold readBytes at h
    split at h
    · obtain ⟨htake, hdrop⟩ := Prod.mk.inj (Option.some.inj h)
      have hlen := congrArg List.length htake
      rw [List.length_take] at hlen
      have hn : n = bytes.length := by omega
      subst hn
      rw [List.drop_left] at hdrop
      exact ⟨rfl, hdrop.symm⟩
    · cases h
  · rintro ⟨rfl, rfl⟩
    exact readBytes_append bytes r

end Rpcn.Lib
