/-
  File:      Rpcn/Lib/Tasks.lean
  Subject:   TASKS OVER A SHARED STATE, interleaved at their atomic steps.

  A server runs many tasks over one shared state. Between two tasks nothing is ordered but the
  atomic steps themselves: a section under a lock, one statement of a database, one operation of an
  atomic. `Pool` is the shared state with the local state of every task (its program counter and
  its own data), `act` one atomic step of one task.
-/
import Mathlib.Tactic.Common

namespace Rpcn.Lib

structure Pool (σ τ : Type) where
  shared : σ
  tasks : List τ

namespace Pool

variable {σ τ ω κ : Type}

def update (p : Pool σ τ) (i : Nat) (s : σ) (t : τ) : Pool σ τ := ⟨s, p.tasks.set i t⟩

def spawn (p : Pool σ τ) (t : τ) : Pool σ τ := ⟨p.shared, p.tasks ++ [t]⟩

/-- **One atomic step of task `i`.** The step sees the shared state and its own local state; it is
    `none` where the task is not at this step, or has to wait. -/
def act (p : Pool σ τ) (i : Nat) (f : σ → τ → Option (ω × σ × τ)) : Option (ω × Pool σ τ) :=
  match p.tasks[i]? with
  | none => none
  | some t => (f p.shared t).map fun r => (r.1, p.update i r.2.1 r.2.2)

variable {p p' : Pool σ τ} {i j : Nat} {s : σ} {t t' u : τ}

theorem act_eq_some {f : σ → τ → Option (ω × σ × τ)} {e : ω} (h : p.act i f = some (e, p')) :
    ∃ t s t', p.tasks[i]? = some t ∧ f p.shared t = some (e, s, t') ∧ p' = p.update i s t' := by
  unfold act at h
  cases ht : p.tasks[i]? with
  | none => simp [ht] at h
  | some t =>
    simp only [ht, Option.map_eq_some_iff, Prod.mk.injEq] at h
    obtain ⟨⟨e', s, t'⟩, hf, rfl, rfl⟩ := h
    exact ⟨t, s, t', rfl, hf, rfl⟩

@[simp] theorem shared_update (p : Pool σ τ) (i : Nat) (s : σ) (t : τ) :
    (p.update i s t).shared = s := rfl

@[simp] theorem shared_spawn (p : Pool σ τ) (t : τ) : (p.spawn t).shared = p.shared := rfl

theorem get_update_self (hi : p.tasks[i]? = some t) : (p.update i s t').tasks[i]? = some t' := by
  have hlt : i < p.tasks.length := (List.getElem?_eq_some_iff.mp hi).1
  simp [update, hlt]

theorem get_update_ne (h : j ≠ i) : (p.update i s t').tasks[j]? = p.tasks[j]? := by
  simp [update, Ne.symm h]

theorem get_update (hj : (p.update i s t').tasks[j]? = some u) :
    j = i ∧ u = t' ∨ j ≠ i ∧ p.tasks[j]? = some u := by
  by_cases e : j = i
  · left
    refine ⟨e, ?_⟩
    rw [update, e, List.getElem?_set_self'] at hj
    obtain ⟨_, _, h⟩ := Option.map_eq_some_iff.mp hj
    exact h.symm
  · right
    rw [get_update_ne e] at hj
    exact ⟨e, hj⟩

theorem get_spawn (hj : (p.spawn t).tasks[j]? = some u) :
    p.tasks[j]? = some u ∨ j = p.tasks.length ∧ u = t := by
  simp only [spawn, List.getElem?_append] at hj
  split at hj
  · exact Or.inl hj
  · right
    rw [List.getElem?_singleton] at hj
    split at hj
    · refine ⟨by omega, (Option.some.inj hj).symm⟩
    · cases hj

theorem get_spawn_old (hj : p.tasks[j]? = some u) : (p.spawn t).tasks[j]? = some u := by
  have hlt : j < p.tasks.length := (List.getElem?_eq_some_iff.mp hj).1
  rw [spawn, List.getElem?_append_left hlt, hj]

/-! ## 1. Assertions -/

/-- **Every task meets its assertion.** -/
def All (A : σ → Nat → τ → Prop) (p : Pool σ τ) : Prop :=
  ∀ i t, p.tasks[i]? = some t → A p.shared i t

theorem All.update {A : σ → Nat → τ → Prop} (h : p.All A) (own : A s i t')
    (others : ∀ j u, j ≠ i → p.tasks[j]? = some u → A p.shared j u → A s j u) :
    (p.update i s t').All A := by
  intro j u hj
  rcases get_update hj with ⟨rfl, rfl⟩ | ⟨hne, hj⟩
  · exact own
  · exact others j u hne hj (h j u hj)

theorem All.spawn {A : σ → Nat → τ → Prop} (h : p.All A) (hnew : A p.shared p.tasks.length t) :
    (p.spawn t).All A := by
  intro j u hj
  rcases get_spawn hj with hj | ⟨rfl, rfl⟩
  · exact h j u hj
  · exact hnew

/-! ## 2. Keys -/

/-- **No two tasks hold the same key.** -/
def Apart (key : τ → Option κ) (p : Pool σ τ) : Prop :=
  ∀ (i j : Nat) (t u : τ) (k : κ), p.tasks[i]? = some t → p.tasks[j]? = some u →
    key t = some k → key u = some k → i = j

theorem Apart.update {key : τ → Option κ} (h : p.Apart key) (hi : p.tasks[i]? = some t)
    (hk : ∀ k, key t' = some k → key t = some k ∨
      ∀ (j : Nat) (u : τ), j ≠ i → p.tasks[j]? = some u → key u ≠ some k) :
    (p.update i s t').Apart key := by
  -- whoever else holds a key of the task that moved held it before
  have hother : ∀ (j : Nat) (u : τ) (k : κ), j ≠ i → p.tasks[j]? = some u → key t' = some k →
      key u ≠ some k := by
    intro j u k hne hj hk' hu
    rcases hk k hk' with hold | hfree
    · exact hne (h j i u t k hj hi hu hold)
    · exact hfree j u hne hj hu
  intro a b x y k ha hb hx hy
  rcases get_update ha with ⟨rfl, rfl⟩ | ⟨hna, ha'⟩
  · rcases get_update hb with ⟨rfl, rfl⟩ | ⟨hnb, hb'⟩
    · rfl
    · exact absurd hy (hother b y k hnb hb' hx)
  · rcases get_update hb with ⟨rfl, rfl⟩ | ⟨_, hb'⟩
    · exact absurd hx (hother a x k hna ha' hy)
    · exact h a b x y k ha' hb' hx hy

theorem Apart.spawn_free {key : τ → Option κ} (h : p.Apart key)
    (hk : ∀ k, key t = some k → ∀ (j : Nat) (u : τ), p.tasks[j]? = some u → key u ≠ some k) :
    (p.spawn t).Apart key := by
  intro a b x y k ha hb hx hy
  rcases get_spawn ha with ha' | ⟨rfl, rfl⟩
  · rcases get_spawn hb with hb' | ⟨_, rfl⟩
    · exact h a b x y k ha' hb' hx hy
    · exact absurd hx (hk k hy a x ha')
  · rcases get_spawn hb with hb' | ⟨rfl, _⟩
    · exact absurd hy (hk k hx b y hb')
    · rfl

theorem Apart.spawn {key : τ → Option κ} (h : p.Apart key) (hk : key t = none) :
    (p.spawn t).Apart key :=
  h.spawn_free fun k hk' => absurd (hk.symm.trans hk') (Option.some_ne_none k).symm

/-! ## 3. Counts -/

def count (q : τ → Bool) (p : Pool σ τ) : Nat := p.tasks.countP q

theorem countP_set (q : τ → Bool) (l : List τ) (i : Nat) (t t' : τ) (h : l[i]? = some t) :
    (l.set i t').countP q + (if q t then 1 else 0) = l.countP q + (if q t' then 1 else 0) := by
  induction l generalizing i with
  | nil => simp at h
  | cons x l ih =>
    cases i with
    | zero =>
      simp only [List.getElem?_cons_zero, Option.some.injEq] at h
      subst h
      simp only [List.set_cons_zero, List.countP_cons]
      omega
    | succ i =>
      simp only [List.getElem?_cons_succ] at h
      have := ih i h
      simp only [List.set_cons_succ, List.countP_cons]
      omega

theorem count_update (q : τ → Bool) (hi : p.tasks[i]? = some t) :
    (p.update i s t').count q + (if q t then 1 else 0) = p.count q + (if q t' then 1 else 0) :=
  countP_set q p.tasks i t t' hi

theorem count_spawn (q : τ → Bool) (p : Pool σ τ) (t : τ) :
    (p.spawn t).count q = p.count q + (if q t then 1 else 0) := by
  simp [count, spawn]

theorem count_congr {q r : τ → Bool} (p : Pool σ τ) (h : ∀ t ∈ p.tasks, q t = r t) :
    p.count q = p.count r :=
  List.countP_congr fun t ht => by rw [h t ht]

theorem count_eq_zero {q : τ → Bool} (p : Pool σ τ) (h : ∀ t ∈ p.tasks, q t = false) :
    p.count q = 0 :=
  List.countP_eq_zero.mpr fun t ht => by rw [h t ht]; exact Bool.false_ne_true

end Pool

end Rpcn.Lib
