/-
  File:      Rpcn/Tus/Dispenser.lean
  Subject:   IDS FROM THE DISPENSER ARE NEW, also after a restart.

  The dispenser is a counter of 64 bits. A start of the server sets it above every file of the
  directory, and then deletes the files that no row names; so no id of a file is dispensed again,
  as long as the counter has not gone round.
-/
import Rpcn.Tus.Server

namespace Rpcn.Tus

open Lib

variable {acc : Account.Database} {p : Server}

/-! ## 1. The bound -/

/-- **No file has an id that is still to be dispensed.** A dispenser that went round is at 0 first. -/
def Bounded (s : Store) : Prop :=
  ∀ id ∈ s.files.keys, s.dispenser = 0 ∨ id.toNat < s.dispenser.toNat

theorem bounded_start : Bounded .start := by
  intro id hid
  cases hid

variable {s : Store}

theorem Bounded.fresh (h : Bounded s) (hd : s.dispenser ≠ 0) : s.dispenser ∉ s.files.keys := by
  intro hm
  rcases h _ hm with h | h
  · exact hd h
  · exact absurd h (Nat.lt_irrefl _)

theorem Bounded.mono {s' : Store} (h : Bounded s) (hd : s'.dispenser = s.dispenser)
    (hf : s'.files.keys ⊆ s.files.keys) : Bounded s' := by
  intro id hid
  rw [hd]
  exact h id (hf hid)

theorem toNat_add_one {d : UInt64} (h : d + 1 ≠ 0) : (d + 1).toNat = d.toNat + 1 := by
  have hlt := d.toNat_lt
  have hne : (d + 1).toNat ≠ 0 := fun e => h (UInt64.toNat_inj.mp e)
  rw [UInt64.toNat_add, UInt64.toNat_one] at hne ⊢
  omega

theorem Bounded.afterCreation (h : Bounded s) (hd : s.dispenser ≠ 0) (data : List UInt8)
    (c : Store.Creation) : Bounded (s.afterCreation data c) := by
  have hdisp : (s.afterCreation data c).dispenser = s.dispenser + 1 := by cases c <;> rfl
  have hkeys : ∀ id ∈ (s.afterCreation data c).files.keys, id = s.dispenser ∨ id ∈ s.files.keys := by
    intro id hid
    cases c with
    | createFailed => exact Or.inr hid
    | complete | writeFailed _ | interrupted _ =>
      rw [Store.afterCreation, HashMap.keys_insert, Finset.mem_insert] at hid
      exact hid
  intro id hid
  rw [hdisp]
  by_cases hz : s.dispenser + 1 = 0
  · exact Or.inl hz
  · right
    rw [toNat_add_one hz]
    rcases hkeys id hid with rfl | hid
    · exact Nat.lt_succ_self _
    · rcases h id hid with h | h
      · exact absurd h hd
      · exact Nat.lt_succ_of_lt h

theorem bounded_handler (s : Store) : Bounded s.initializeTusDataHandler := by
  intro id hid
  have hle : id.toNat ≤ s.files.keys.sup UInt64.toNat := Finset.le_sup hid
  have hlt : s.files.keys.sup UInt64.toNat < 2 ^ 64 :=
    (Finset.sup_lt_iff (by decide)).mpr fun a _ => a.toNat_lt
  by_cases hz : UInt64.ofNat (s.files.keys.sup UInt64.toNat) + 1 = 0
  · exact Or.inl hz
  · right
    have hval : (UInt64.ofNat (s.files.keys.sup UInt64.toNat)).toNat =
        s.files.keys.sup UInt64.toNat := UInt64.toNat_ofNat_of_lt hlt
    rw [Store.initializeTusDataHandler, Store.createDataDirectory, toNat_add_one hz, hval]
    omega

theorem World.restart_bounded (w : World) : Bounded w.restart.store := by
  unfold World.restart Store.serverNew Store.cleanTusData
  split
  · rename_i s hs
    split at hs
    · cases hs
    · cases hs
      refine (bounded_handler w.store).mono rfl fun id hid => ?_
      obtain ⟨d, hd⟩ := HashMap.mem_keys.mp hid
      exact HashMap.mem_keys.mpr ⟨d, (HashMap.get?_retain_some.mp hd).1⟩
  · exact bounded_handler w.store

/-! ## 2. Every step -/

/-- **The dispenser has not gone round** at the creation of a file. -/
def Unwrapped (p : Server) : TusOp → Prop
  | .next i _ => ∀ job, p.tasks[i]? = some (.set job .create) → p.shared.store.dispenser ≠ 0
  | _ => True

theorem Bounded.serve {p' : Server} {op : TusOp} (h : Bounded p.shared.store)
    (hg : Unwrapped p op) (hm : Moves acc p op p') : Bounded p'.shared.store := by
  cases hm with
  | spawned waits => exact h
  | deleted keep hs =>
    rw [hs]
    exact h
  | set hi hs =>
    cases SetJob.step_spec hs with
    | refused r hr | passed | stored dataId known | unmet dataId | failed dataId => exact h
    | created dataId hc | stopped hc => exact h.afterCreation (hg _ hi) _ _
    | cleaned dataId =>
      refine h.mono rfl fun id hid => ?_
      rw [Pool.shared_update, Store.deleteTusData, HashMap.keys_remove] at hid
      exact Finset.mem_of_mem_erase hid
  | get hi hs => exact h
  | restart => exact p.shared.restart_bounded

end Rpcn.Tus
