/-
  File:      Rpcn/Lib/TreeMap.lean
  Subject:   ORDERED MAPS: what an update does to the list of entries.

  Counting the entries of an ordered map that satisfy a predicate needs the entries as a list, up
  to order: `toList_insert_perm` and `toList_erase_perm` say what an insertion and a removal do
  to it, `countP_insert_new`, `countP_erase` and `countP_insert_old` are the counting forms.
-/
import Mathlib.Data.Finset.Sort

namespace Rpcn.Lib

open Std

variable {K V : Type} [Ord K] [TransOrd K] [LawfulEqOrd K]

namespace TreeMap

/-! ## 1. Lookups, with the key compared by equality -/

theorem getElem?_insert [DecidableEq K] (m : ExtTreeMap K V) (k a : K) (v : V) :
    (m.insert k v)[a]? = if a = k then some v else m[a]? := by
  rw [ExtTreeMap.getElem?_insert]
  by_cases e : a = k
  · rw [if_pos e, if_pos (Std.compare_eq_iff_eq.mpr e.symm)]
  · rw [if_neg e, if_neg fun h => e (Std.compare_eq_iff_eq.mp h).symm]

theorem getElem?_erase [DecidableEq K] (m : ExtTreeMap K V) (k a : K) :
    (m.erase k)[a]? = if a = k then none else m[a]? := by
  rw [ExtTreeMap.getElem?_erase]
  by_cases e : a = k
  · rw [if_pos e, if_pos (Std.compare_eq_iff_eq.mpr e.symm)]
  · rw [if_neg e, if_neg fun h => e (Std.compare_eq_iff_eq.mp h).symm]

theorem getElem?_modify [DecidableEq K] (m : ExtTreeMap K V) (k a : K) (f : V → V) :
    (m.modify k f)[a]? = if a = k then (m[a]?).map f else m[a]? := by
  rw [ExtTreeMap.getElem?_modify]
  by_cases e : a = k
  · rw [if_pos e, if_pos (Std.compare_eq_iff_eq.mpr e.symm), e]
  · rw [if_neg e, if_neg fun h => e (Std.compare_eq_iff_eq.mp h).symm]

theorem modify_eq_insert [DecidableEq K] {m : ExtTreeMap K V} {k : K} {v : V} (h : m[k]? = some v)
    (f : V → V) : m.modify k f = m.insert k (f v) := by
  refine ExtTreeMap.ext_getElem? fun a => ?_
  rw [getElem?_modify, getElem?_insert]
  by_cases e : a = k
  · rw [if_pos e, if_pos e, e, h, Option.map_some]
  · rw [if_neg e, if_neg e]

/-! ## 2. The list of entries -/

theorem nodup_toList (m : ExtTreeMap K V) : m.toList.Nodup := by
  have h := ExtTreeMap.distinct_keys_toList (t := m)
  refine h.imp fun {a b} hab e => hab ?_
  rw [e]
  exact ReflCmp.compare_self

theorem toList_erase_perm {m : ExtTreeMap K V} {k : K} {v : V} (h : m[k]? = some v) :
    m.toList.Perm ((k, v) :: (m.erase k).toList) := by
  refine (List.perm_ext_iff_of_nodup (nodup_toList m) ?_).mpr fun p => ?_
  · refine List.nodup_cons.mpr ⟨fun hm => ?_, nodup_toList _⟩
    rw [ExtTreeMap.mem_toList_iff_getElem?_eq_some, ExtTreeMap.getElem?_erase_self] at hm
    cases hm
  · obtain ⟨a, b⟩ := p
    rw [List.mem_cons, ExtTreeMap.mem_toList_iff_getElem?_eq_some,
      ExtTreeMap.mem_toList_iff_getElem?_eq_some, ExtTreeMap.getElem?_erase]
    by_cases e : k = a
    · subst e
      simp [h, eq_comm]
    · have e' : a ≠ k := fun e' => e e'.symm
      simp [e, e']

theorem toList_insert_perm (m : ExtTreeMap K V) (k : K) (v : V) :
    (m.insert k v).toList.Perm ((k, v) :: (m.erase k).toList) := by
  have h : (m.insert k v)[k]? = some v := ExtTreeMap.getElem?_insert_self
  have e : (m.insert k v).erase k = m.erase k := by
    refine ExtTreeMap.ext_getElem? fun a => ?_
    simp only [ExtTreeMap.getElem?_erase, ExtTreeMap.getElem?_insert]
    split <;> rfl
  rw [← e]
  exact toList_erase_perm h

theorem erase_of_none {m : ExtTreeMap K V} {k : K} (h : m[k]? = none) : m.erase k = m := by
  refine ExtTreeMap.ext_getElem? fun a => ?_
  rw [ExtTreeMap.getElem?_erase]
  by_cases e : k = a
  · subst e
    simp [h]
  · simp [e]

variable (p : K × V → Bool)

theorem countP_erase {m : ExtTreeMap K V} {k : K} {v : V} (h : m[k]? = some v) :
    m.toList.countP p = (m.erase k).toList.countP p + if p (k, v) then 1 else 0 := by
  rw [(toList_erase_perm h).countP_eq p, List.countP_cons]

theorem countP_insert_new {m : ExtTreeMap K V} {k : K} (v : V) (h : m[k]? = none) :
    (m.insert k v).toList.countP p = m.toList.countP p + if p (k, v) then 1 else 0 := by
  rw [(toList_insert_perm m k v).countP_eq p, List.countP_cons, erase_of_none h]

theorem countP_insert_old {m : ExtTreeMap K V} {k : K} {v w : V} (h : m[k]? = some w)
    (hp : p (k, v) = p (k, w)) : (m.insert k v).toList.countP p = m.toList.countP p := by
  rw [(toList_insert_perm m k v).countP_eq p, (toList_erase_perm h).countP_eq p,
    List.countP_cons, List.countP_cons, hp]

end TreeMap

end Rpcn.Lib
