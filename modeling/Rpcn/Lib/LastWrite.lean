/-
  File:      Rpcn/Lib/LastWrite.lean
  Subject:   WHAT A CELL HOLDS AFTER A LIST OF WRITES.

  A store is written entry by entry, and each entry goes to one cell or to none. A cell then holds
  the last entry that went to it, or what it held before.
-/
import Mathlib.Data.List.GetD
import Rpcn.Lib.Call

namespace Rpcn.Lib

variable {α β σ ε κ : Type}

/-! ## 1. The last entry -/

def lastWhere (p : α → Bool) (l : List α) : Option α := (l.filter p).getLast?

/-- The last entry with the property in the last of the lists that has one. -/
def lastOf (p : α → Bool) (ls : List (List α)) : Option α := (ls.filterMap (lastWhere p)).getLast?

theorem lastWhere_some {p : α → Bool} {l : List α} {a : α} (h : lastWhere p l = some a) :
    p a = true :=
  (List.mem_filter.mp (List.mem_of_getLast? h)).2

theorem lastWhere_append (p : α → Bool) (l l' : List α) :
    lastWhere p (l ++ l') = (lastWhere p l').or (lastWhere p l) := by
  rw [lastWhere, List.filter_append, List.getLast?_append]
  rfl

theorem lastWhere_cons (p : α → Bool) (a : α) (l : List α) :
    lastWhere p (a :: l) = (lastWhere p l).or (if p a then some a else none) := by
  rw [← List.singleton_append, lastWhere_append]
  by_cases h : p a = true <;> simp [lastWhere, h]

theorem lastOf_append_singleton (p : α → Bool) (ls : List (List α)) (l : List α) :
    lastOf p (ls ++ [l]) = (lastWhere p l).or (lastOf p ls) := by
  rw [lastOf, List.filterMap_append, List.getLast?_append]
  cases h : lastWhere p l with
  | none => simp [lastOf, h]
  | some a => simp [h]

theorem getD_lastOf_append (p : α → Bool) (f : α → β) (b : β) (ls : List (List α)) (l : List α) :
    ((lastOf p (ls ++ [l])).map f).getD b =
      ((lastWhere p l).map f).getD (((lastOf p ls).map f).getD b) := by
  rw [lastOf_append_singleton]
  cases lastWhere p l <;> rfl

theorem lastWhere_of_never {p : α → Bool} {l : List α} (h : ∀ a ∈ l, p a = false) :
    lastWhere p l = none := by
  rw [lastWhere, List.filter_eq_nil_iff.mpr fun a ha => by rw [h a ha]; exact Bool.false_ne_true]
  rfl

/-! ## 2. Reads after writes -/

theorem read_foldl (read : σ → β) {write : σ → α → σ} {own : α → Bool} {value : α → β}
    (hwrite : ∀ s a, read (write s a) = if own a then value a else read s) (l : List α) (s : σ) :
    read (l.foldl write s) = ((lastWhere own l).map value).getD (read s) := by
  induction l generalizing s with
  | nil => rfl
  | cons a l ih =>
    rw [List.foldl_cons, ih, hwrite, lastWhere_cons]
    cases lastWhere own l with
    | some b => rfl
    | none => by_cases h : own a = true <;> simp [h]

theorem read_foldlM (read : σ → β) {parse : α → Except ε κ} {write : σ → κ → σ} (own : α → Bool)
    (value : α → β)
    (hwrite : ∀ s a k, parse a = .ok k → read (write s k) = if own a then value a else read s)
    {l : List α} {s s' : σ}
    (h : l.foldlM (fun s a => do let k ← parse a; return write s k) s = .ok s') :
    read s' = ((lastWhere own l).map value).getD (read s) := by
  induction l generalizing s with
  | nil =>
    cases h
    rfl
  | cons a l ih =>
    rw [List.foldlM_cons] at h
    cases hk : parse a with
    | error e =>
      rw [hk] at h
      cases h
    | ok k =>
      rw [hk] at h
      rw [ih h, hwrite s a k hk, lastWhere_cons]
      cases lastWhere own l with
      | some b => rfl
      | none => by_cases h : own a = true <;> simp [h]

theorem read_foldlM_of_never (read : σ → β) {parse : α → Except ε κ} (write : σ → κ → σ)
    (hwrite : ∀ s k, read (write s k) = read s) {l : List α} {s s' : σ}
    (h : l.foldlM (fun s a => do let k ← parse a; return write s k) s = .ok s') :
    read s' = read s := by
  have hread := read_foldlM read (fun _ => false) (fun _ => read s)
    (fun s a k _ => hwrite s k) h
  rwa [lastWhere_of_never fun _ _ => rfl] at hread

theorem foldlM_filter {parse : α → Except ε κ} {write : σ → κ → σ} (keep : α → Bool)
    (hskip : ∀ s a k, parse a = .ok k → keep a = false → write s k = s) {l : List α} {s s' : σ}
    (h : l.foldlM (fun s a => do let k ← parse a; return write s k) s = .ok s') :
    (l.filter keep).foldlM (fun s a => do let k ← parse a; return write s k) s = .ok s' := by
  induction l generalizing s with
  | nil => exact h
  | cons a l ih =>
    rw [List.foldlM_cons] at h
    cases hk : parse a with
    | error e =>
      rw [hk] at h
      cases h
    | ok k =>
      rw [hk] at h
      have hrest := ih h
      cases hkeep : keep a with
      | true =>
        rw [List.filter_cons_of_pos hkeep, List.foldlM_cons, hk]
        exact hrest
      | false =>
        rw [List.filter_cons_of_neg (by rw [hkeep]; exact Bool.false_ne_true)]
        rwa [hskip s a k hk hkeep] at hrest

theorem take_ofFn_getD {N : Nat} (l : List UInt8) :
    (Vector.ofFn fun i : Fin N => l.getD i 0).toList.take (min l.length N) = l.take N := by
  refine List.ext_getElem? fun i => ?_
  rw [List.getElem?_take, List.getElem?_take, Vector.getElem?_toList, Vector.getElem?_ofFn]
  by_cases hN : i < N
  · rw [if_pos hN, dif_pos hN]
    by_cases hl : i < l.length
    · rw [if_pos (Nat.lt_min.mpr ⟨hl, hN⟩), List.getElem?_eq_getElem hl]
      exact congrArg some (List.getD_eq_getElem _ _ hl)
    · rw [if_neg fun h => hl (Nat.lt_min.mp h).1, List.getElem?_eq_none (Nat.le_of_not_lt hl)]
  · rw [if_neg hN, if_neg fun h => hN (Nat.lt_min.mp h).2]

/-- **The loop of a call** that parses and stores one entry after the other. -/
def storeAll {π : Type} (parse : α → Except ε κ) (write : σ → κ → σ) (l : List α) :
    Call ε π σ Unit :=
  l.forM fun a => do
    let k ← Call.ofExcept (parse a)
    Call.modify fun s => write s k

section

variable {π : Type} {parse : α → Except ε κ} {write : σ → κ → σ}

theorem storeAll_cons_ok {a : α} {k : κ} (h : parse a = .ok k) (l : List α) (s : σ) :
    (storeAll parse write (a :: l) : Call ε π σ Unit) s = storeAll parse write l (write s k) := by
  unfold storeAll
  rw [List.forM, h]
  rfl

theorem storeAll_cons_error {a : α} {e : ε} (h : parse a = .error e) (l : List α) (s : σ) :
    (storeAll parse write (a :: l) : Call ε π σ Unit) s = (.err e, s) := by
  unfold storeAll
  rw [List.forM, h]
  rfl

theorem storeAll_eq_ok {l : List α} {s s' : σ} :
    (storeAll parse write l : Call ε π σ Unit) s = (.ok (), s') ↔
      l.foldlM (fun s a => do let k ← parse a; return write s k) s = .ok s' := by
  induction l generalizing s with
  | nil =>
    constructor
    · intro h
      cases h
      rfl
    · intro h
      cases h
      rfl
  | cons a l ih =>
    rw [List.foldlM_cons]
    cases hk : parse a with
    | error e =>
      rw [storeAll_cons_error hk]
      constructor
      · intro h
        cases h
      · intro h
        cases h
    | ok k =>
      rw [storeAll_cons_ok hk]
      exact ih

theorem storeAll_cases (parse : α → Except ε κ) (write : σ → κ → σ) (l : List α) (s : σ) :
    (∃ s', (storeAll parse write l : Call ε π σ Unit) s = (.ok (), s')) ∨
      ∃ a e s', parse a = .error e ∧
        (storeAll parse write l : Call ε π σ Unit) s = (.err e, s') := by
  induction l generalizing s with
  | nil => exact Or.inl ⟨s, rfl⟩
  | cons a l ih =>
    cases hk : parse a with
    | error e => exact Or.inr ⟨a, e, s, hk, storeAll_cons_error hk l s⟩
    | ok k =>
      rw [storeAll_cons_ok hk]
      exact ih (write s k)

end

end Rpcn.Lib
