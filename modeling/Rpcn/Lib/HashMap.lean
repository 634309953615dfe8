/-
  File:      Rpcn/Lib/HashMap.lean
  Subject:   UNORDERED MAPS, and maps of sets used as indexes.

  `HashMap K V` is Mathlib's `Finmap` with a fixed value type: finite, extensional, without an
  iteration order, which is what a program may rely on of a hash map.
-/
import Mathlib.Data.Finmap

namespace Rpcn.Lib

/-- A finite map without an order on its keys. -/
def HashMap (K V : Type) : Type := Finmap fun _ : K => V

variable {B : Type}

namespace HashMap

variable {K V A : Type}

instance : EmptyCollection (HashMap K V) := ⟨(∅ : Finmap fun _ : K => V)⟩

instance : Inhabited (HashMap K V) := ⟨∅⟩

instance [DecidableEq K] [DecidableEq V] : DecidableEq (HashMap K V) :=
  inferInstanceAs (DecidableEq (Finmap fun _ : K => V))

def keys (m : HashMap K V) : Finset K := Finmap.keys m

def len (m : HashMap K V) : Nat := m.keys.card

def values (m : HashMap K V) : Multiset V := (Finmap.entries m).map (·.2)

variable [DecidableEq K]

def get? (m : HashMap K V) (k : K) : Option V := Finmap.lookup k m

def insert (m : HashMap K V) (k : K) (v : V) : HashMap K V := Finmap.insert k v m

def remove (m : HashMap K V) (k : K) : HashMap K V := Finmap.erase k m

def modify (m : HashMap K V) (k : K) (f : V → V) : HashMap K V :=
  match m.get? k with
  | none => m
  | some v => m.insert k (f v)

/-! ## 1. Lookups -/

@[simp] theorem get?_empty (k : K) : (∅ : HashMap K V).get? k = none := Finmap.lookup_empty k

@[simp] theorem get?_insert (m : HashMap K V) (k a : K) (v : V) :
    (m.insert k v).get? a = if a = k then some v else m.get? a := by
  by_cases h : a = k
  · subst h
    rw [if_pos rfl]
    exact Finmap.lookup_insert m
  · rw [if_neg h]
    exact Finmap.lookup_insert_of_ne m h

@[simp] theorem get?_remove (m : HashMap K V) (k a : K) :
    (m.remove k).get? a = if a = k then none else m.get? a := by
  by_cases h : a = k
  · subst h
    rw [if_pos rfl]
    exact Finmap.lookup_erase a m
  · rw [if_neg h]
    exact Finmap.lookup_erase_ne h

@[simp] theorem get?_modify (m : HashMap K V) (k a : K) (f : V → V) :
    (m.modify k f).get? a = if a = k then (m.get? k).map f else m.get? a := by
  unfold modify
  cases h : m.get? k with
  | none =>
    by_cases e : a = k
    · simp [e, h]
    · simp [e]
  | some v => simp

theorem ext {m m' : HashMap K V} (h : ∀ k, m.get? k = m'.get? k) : m = m' :=
  Finmap.ext_lookup h

theorem insert_self {m : HashMap K V} {k : K} {v : V} (h : m.get? k = some v) :
    m.insert k v = m := by
  refine ext fun a => ?_
  rw [get?_insert]
  by_cases e : a = k
  · rw [if_pos e, e, h]
  · rw [if_neg e]

theorem insert_insert (m : HashMap K V) (k : K) (v w : V) :
    (m.insert k v).insert k w = m.insert k w := by
  refine ext fun a => ?_
  rw [get?_insert, get?_insert, get?_insert]
  split <;> rfl

theorem remove_insert (m : HashMap K V) (k : K) (v : V) : (m.insert k v).remove k = m.remove k := by
  refine ext fun a => ?_
  rw [get?_remove, get?_remove, get?_insert]
  split <;> rfl

/-! ## 2. Keys and their number -/

theorem mem_keys {m : HashMap K V} {k : K} : k ∈ m.keys ↔ ∃ v, m.get? k = some v :=
  Finmap.mem_keys.trans Finmap.mem_iff

theorem notMem_keys {m : HashMap K V} {k : K} : k ∉ m.keys ↔ m.get? k = none := by
  rw [mem_keys, Option.eq_none_iff_forall_ne_some]
  exact not_exists

theorem keys_insert (m : HashMap K V) (k : K) (v : V) :
    (m.insert k v).keys = Insert.insert k m.keys := by
  ext a
  rw [Finset.mem_insert, mem_keys, mem_keys, get?_insert]
  by_cases h : a = k
  · simp [h]
  · simp [h]

theorem keys_remove (m : HashMap K V) (k : K) : (m.remove k).keys = m.keys.erase k :=
  Finmap.keys_erase k m

@[simp] theorem keys_modify (m : HashMap K V) (k : K) (f : V → V) : (m.modify k f).keys = m.keys := by
  unfold modify
  cases h : m.get? k with
  | none => rfl
  | some v => exact (keys_insert m k (f v)).trans (Finset.insert_eq_of_mem (mem_keys.mpr ⟨v, h⟩))

theorem len_insert_new {m : HashMap K V} {k : K} (v : V) (h : m.get? k = none) :
    (m.insert k v).len = m.len + 1 := by
  unfold len
  rw [keys_insert, Finset.card_insert_of_notMem (notMem_keys.mpr h)]

theorem len_insert_old {m : HashMap K V} {k : K} {w : V} (v : V) (h : m.get? k = some w) :
    (m.insert k v).len = m.len := by
  unfold len
  rw [keys_insert, Finset.insert_eq_of_mem (mem_keys.mpr ⟨w, h⟩)]

theorem len_insert_le (m : HashMap K V) (k : K) (v : V) : (m.insert k v).len ≤ m.len + 1 := by
  unfold len
  rw [keys_insert]
  exact Finset.card_insert_le _ _

theorem len_eq_zero {m : HashMap K V} : m.len = 0 ↔ ∀ k, m.get? k = none := by
  unfold len
  rw [Finset.card_eq_zero, Finset.eq_empty_iff_forall_notMem]
  exact forall_congr' fun k => notMem_keys

/-! ## 3. A property of every value -/

/-- Every value stored has the property. -/
def All (P : V → Prop) (m : HashMap K V) : Prop := ∀ k v, m.get? k = some v → P v

theorem All.empty (P : V → Prop) : All P (∅ : HashMap K V) := fun _ _ h => by cases h

theorem All.insert {P : V → Prop} {m : HashMap K V} (h : All P m) (k : K) {v : V} (hv : P v) :
    All P (m.insert k v) := by
  intro a w hw
  rw [get?_insert] at hw
  split at hw
  · cases hw
    exact hv
  · exact h a w hw

theorem All.remove {P : V → Prop} {m : HashMap K V} (h : All P m) (k : K) :
    All P (m.remove k) := by
  intro a w hw
  rw [get?_remove] at hw
  split at hw
  · cases hw
  · exact h a w hw

/-- No two values agree in the column `f`. -/
def UniqueBy {B : Type} (f : V → B) (m : HashMap K V) : Prop :=
  ∀ k l v w, m.get? k = some v → m.get? l = some w → f v = f w → k = l

theorem UniqueBy.empty (f : V → B) : UniqueBy f (∅ : HashMap K V) :=
  fun _ _ _ _ h => by cases h

theorem UniqueBy.insert_new {f : V → B} {m : HashMap K V} (h : UniqueBy f m) (k : K) {v : V}
    (hv : ∀ l w, m.get? l = some w → f w ≠ f v) : UniqueBy f (m.insert k v) := by
  intro a b x y ha hb hxy
  rw [get?_insert] at ha hb
  split at ha
  · split at hb
    · rename_i e e'
      rw [e, e']
    · cases ha
      exact absurd hxy.symm (hv b y hb)
  · split at hb
    · cases hb
      exact absurd hxy (hv a x ha)
    · exact h a b x y ha hb hxy

theorem UniqueBy.mono {f : V → B} {m m' : HashMap K V} (h : UniqueBy f m)
    (hm : ∀ k v, m'.get? k = some v → ∃ w, m.get? k = some w ∧ f w = f v) : UniqueBy f m' := by
  intro a b x y ha hb hxy
  obtain ⟨x', hx', ex⟩ := hm a x ha
  obtain ⟨y', hy', ey⟩ := hm b y hb
  exact h a b x' y' hx' hy' (ex.trans (hxy.trans ey.symm))

theorem UniqueBy.modify {g : V → B} {m : HashMap K V} (h : UniqueBy g m) (k : K) {f : V → V}
    (hf : ∀ v, g (f v) = g v) : UniqueBy g (m.modify k f) := by
  refine h.mono fun a v ha => ?_
  rw [get?_modify] at ha
  split at ha
  · rename_i e
    obtain ⟨w, hw, rfl⟩ := Option.map_eq_some_iff.mp ha
    exact ⟨w, e ▸ hw, (hf w).symm⟩
  · exact ⟨v, ha, rfl⟩

/-! ## 4. The entries -/

def entries (m : HashMap K V) : Multiset (K × V) := (Finmap.entries m).map fun p => (p.1, p.2)

theorem mem_entries {m : HashMap K V} {p : K × V} : p ∈ m.entries ↔ m.get? p.1 = some p.2 := by
  have hl : m.get? p.1 = some p.2 ↔ (⟨p.1, p.2⟩ : Sigma fun _ : K => V) ∈ Finmap.entries m :=
    Finmap.lookup_eq_some_iff
  rw [hl, entries, Multiset.mem_map]
  refine ⟨?_, fun h => ⟨⟨p.1, p.2⟩, h, rfl⟩⟩
  rintro ⟨q, hq, rfl⟩
  exact hq

omit [DecidableEq K] in
theorem nodup_entries (m : HashMap K V) : m.entries.Nodup := by
  refine Multiset.Nodup.map ?_ (Finmap.nodup_entries m)
  rintro ⟨a, v⟩ ⟨b, w⟩ h
  cases h
  rfl

theorem entries_insert (m : HashMap K V) (k : K) (v : V) :
    (m.insert k v).entries = (k, v) ::ₘ m.entries.filter fun p => p.1 ≠ k := by
  have hnew : (k, v) ∉ m.entries.filter fun p => p.1 ≠ k := by simp
  refine (Multiset.Nodup.ext (nodup_entries _)
    (Multiset.nodup_cons.mpr ⟨hnew, (nodup_entries m).filter _⟩)).mpr fun p => ?_
  rw [mem_entries, get?_insert, Multiset.mem_cons, Multiset.mem_filter, mem_entries]
  obtain ⟨a, w⟩ := p
  by_cases h : a = k
  · simp [h, eq_comm]
  · simp [h]

omit [DecidableEq K] in
theorem values_eq (m : HashMap K V) : m.values = m.entries.map (·.2) := by
  rw [values, entries, Multiset.map_map]
  rfl

theorem mem_values {m : HashMap K V} {v : V} : v ∈ m.values ↔ ∃ k, m.get? k = some v := by
  rw [values_eq, Multiset.mem_map]
  constructor
  · rintro ⟨p, hp, rfl⟩
    exact ⟨p.1, mem_entries.mp hp⟩
  · rintro ⟨k, hk⟩
    exact ⟨(k, v), mem_entries.mpr hk, rfl⟩

theorem UniqueBy.nodup_map_values {f : V → B} {m : HashMap K V} (h : UniqueBy f m) :
    (m.values.map f).Nodup := by
  rw [values_eq, Multiset.map_map]
  refine (nodup_entries m).map_on fun p hp q hq e => ?_
  have hp := mem_entries.mp hp
  have hq := mem_entries.mp hq
  have hk : p.1 = q.1 := h _ _ _ _ hp hq e
  rw [hk, hq] at hp
  exact Prod.ext hk (Option.some.inj hp).symm

/-- The only element of a collection that has exactly one. -/
def only? (s : Multiset A) : Option A :=
  Quotient.lift (fun l : List A => match l with | [a] => some a | _ => none) (by
    intro a b h
    match a, h with
    | [], h => rw [List.nil_perm.mp h]
    | [x], h => rw [List.singleton_perm.mp h]
    | x :: y :: l, h =>
      have hlen := h.length_eq
      match b, hlen with
      | x' :: y' :: l', _ => rfl) s

theorem only?_singleton (a : A) : only? ({a} : Multiset A) = some a := rfl

theorem only?_eq_some {s : Multiset A} {a : A} (h : only? s = some a) : s = {a} := by
  induction s using Quotient.inductionOn with
  | h l =>
    match l, h with
    | [x], h =>
      cases h
      rfl

/-- The entry that meets a condition, where exactly one does. -/
def find? (m : HashMap K V) (p : K × V → Bool) : Option (K × V) :=
  only? (m.entries.filter fun e => p e = true)

theorem find?_some {m : HashMap K V} {p : K × V → Bool} {e : K × V} (h : m.find? p = some e) :
    m.get? e.1 = some e.2 ∧ p e = true := by
  have hmem : e ∈ m.entries.filter fun e => p e = true := by
    rw [only?_eq_some h]
    exact Multiset.mem_singleton_self e
  rw [Multiset.mem_filter, mem_entries] at hmem
  exact hmem

theorem find?_of_unique {m : HashMap K V} {p : K × V → Bool} {k : K} {v : V}
    (hk : m.get? k = some v) (hp : p (k, v) = true)
    (hu : ∀ k' v', m.get? k' = some v' → p (k', v') = true → k' = k) : m.find? p = some (k, v) := by
  have hs : (m.entries.filter fun e => p e = true) = {(k, v)} := by
    refine (Multiset.Nodup.ext ((nodup_entries m).filter _) (Multiset.nodup_singleton _)).mpr ?_
    intro e
    rw [Multiset.mem_filter, mem_entries, Multiset.mem_singleton]
    constructor
    · intro h
      obtain rfl := hu e.1 e.2 h.1 h.2
      exact Prod.ext rfl (Option.some.inj (h.1.symm.trans hk))
    · intro h
      rw [h]
      exact ⟨hk, hp⟩
  rw [find?, hs, only?_singleton]

def any (m : HashMap K V) (p : V → Bool) : Bool := m.entries.countP (fun e => p e.2 = true) != 0

theorem any_eq_false {m : HashMap K V} {p : V → Bool} (h : m.any p = false) {k : K} {v : V}
    (hk : m.get? k = some v) : p v = false := by
  have hz : m.entries.countP (fun e => p e.2 = true) = 0 := by simpa [any] using h
  rw [Multiset.countP_eq_zero] at hz
  exact Bool.eq_false_iff.mpr (hz (k, v) (mem_entries.mpr hk))

def retain (m : HashMap K V) (p : K → V → Bool) : HashMap K V where
  entries := (Finmap.entries m).filter fun e => p e.1 e.2 = true
  nodupKeys := Multiset.nodup_keys.mp (Multiset.nodup_of_le
    (Multiset.map_le_map (Multiset.filter_le _ _)) (Multiset.nodup_keys.mpr m.nodupKeys))

@[simp] theorem get?_retain (m : HashMap K V) (p : K → V → Bool) (k : K) :
    (m.retain p).get? k = (m.get? k).filter (p k) := by
  have hl : ∀ (m : HashMap K V) v, m.get? k = some v ↔
      (⟨k, v⟩ : Sigma fun _ : K => V) ∈ Finmap.entries m := fun m v => Finmap.lookup_eq_some_iff
  ext v
  rw [hl, Option.filter_eq_some_iff, hl]
  exact Multiset.mem_filter

theorem get?_retain_some {m : HashMap K V} {p : K → V → Bool} {k : K} {v : V} :
    (m.retain p).get? k = some v ↔ m.get? k = some v ∧ p k v = true := by
  rw [get?_retain, Option.filter_eq_some_iff]

theorem mem_keys_retain {m : HashMap K V} {p : K → Bool} {k : K} :
    k ∈ (m.retain fun k _ => p k).keys ↔ k ∈ m.keys ∧ p k = true := by
  simp only [mem_keys, get?_retain_some]
  exact exists_and_right

theorem UniqueBy.retain {f : V → B} {m : HashMap K V} (h : UniqueBy f m) (p : K → V → Bool) :
    UniqueBy f (m.retain p) :=
  h.mono fun _ v hv => ⟨v, (get?_retain_some.mp hv).1, rfl⟩

/-! ## 5. Indexes -/

section Index

variable [DecidableEq A]

/-- The set filed under `k`; an absent key files nothing. -/
def setAt (m : HashMap K (Finset A)) (k : K) : Finset A := (m.get? k).getD ∅

def addTo (m : HashMap K (Finset A)) (k : K) (a : A) : HashMap K (Finset A) :=
  m.insert k (Insert.insert a (m.setAt k))

/-- `m.get_mut(k)` followed by `remove(a)` on the set found; the caller decides what an absent
    key means. -/
def dropFrom (m : HashMap K (Finset A)) (k : K) (a : A) : HashMap K (Finset A) :=
  match m.get? k with
  | some s => m.insert k (s.erase a)
  | none => m

omit [DecidableEq A] in
@[simp] theorem setAt_empty (k : K) : (∅ : HashMap K (Finset A)).setAt k = ∅ := by
  simp [setAt]

@[simp] theorem setAt_addTo (m : HashMap K (Finset A)) (k j : K) (a : A) :
    (m.addTo k a).setAt j = if j = k then Insert.insert a (m.setAt k) else m.setAt j := by
  unfold addTo
  rw [setAt, get?_insert]
  by_cases h : j = k
  · simp [h]
  · simp [h, setAt]

@[simp] theorem setAt_dropFrom (m : HashMap K (Finset A)) (k j : K) (a : A) :
    (m.dropFrom k a).setAt j = if j = k then (m.setAt k).erase a else m.setAt j := by
  unfold dropFrom
  by_cases h : j = k
  · subst h
    cases e : m.get? j with
    | none => simp [setAt, e]
    | some s => simp [setAt, e]
  · cases e : m.get? k with
    | none => simp [h]
    | some s => simp [setAt, h]

omit [DecidableEq A] in
theorem exists_of_mem_setAt {m : HashMap K (Finset A)} {k : K} {a : A} (h : a ∈ m.setAt k) :
    ∃ s, m.get? k = some s ∧ a ∈ s := by
  unfold setAt at h
  cases e : m.get? k with
  | none => simp [e] at h
  | some s => exact ⟨s, rfl, by simpa [e] using h⟩

end Index

/-! ## 6. Maps of maps -/

section Nested

variable {C : Type} [DecidableEq C]

/-- `m[k][c]`; absent when either key is. -/
def get2? (m : HashMap K (HashMap C V)) (k : K) (c : C) : Option V :=
  (m.get? k).bind fun n => n.get? c

def insert2 (m : HashMap K (HashMap C V)) (k : K) (c : C) (v : V) : HashMap K (HashMap C V) :=
  m.insert k (((m.get? k).getD ∅).insert c v)

/-- `m.get_mut(k)` followed by `remove(c)` on the map found; the caller decides what an absent
    key means. -/
def remove2 (m : HashMap K (HashMap C V)) (k : K) (c : C) : HashMap K (HashMap C V) :=
  match m.get? k with
  | some n => m.insert k (n.remove c)
  | none => m

@[simp] theorem get2?_empty (k : K) (c : C) : (∅ : HashMap K (HashMap C V)).get2? k c = none := by
  simp [get2?]

@[simp] theorem get2?_insert2 (m : HashMap K (HashMap C V)) (k a : K) (c b : C) (v : V) :
    (m.insert2 k c v).get2? a b = if a = k ∧ b = c then some v else m.get2? a b := by
  unfold insert2
  rw [get2?, get?_insert]
  by_cases ha : a = k
  · subst ha
    by_cases hb : b = c
    · simp [hb]
    · cases e : m.get? a with
      | none => simp [hb, get2?, e]
      | some n => simp [hb, get2?, e]
  · simp [ha, get2?]

@[simp] theorem get2?_remove2 (m : HashMap K (HashMap C V)) (k a : K) (c b : C) :
    (m.remove2 k c).get2? a b = if a = k ∧ b = c then none else m.get2? a b := by
  unfold remove2
  by_cases ha : a = k
  · subst ha
    by_cases hb : b = c
    · cases e : m.get? a with
      | none => simp [get2?, e]
      | some n => simp [hb, get2?]
    · cases e : m.get? a with
      | none => simp [hb]
      | some n => simp [hb, get2?, e]
  · cases e : m.get? k with
    | none => simp [ha]
    | some n => simp [ha, get2?]

theorem isSome_of_get2? {m : HashMap K (HashMap C V)} {k : K} {c : C} {v : V}
    (h : m.get2? k c = some v) : (m.get? k).isSome = true := by
  unfold get2? at h
  cases e : m.get? k with
  | none => simp [e] at h
  | some n => rfl

end Nested

end HashMap

end Rpcn.Lib
