/-
  File:      Rpcn/Lib/Linearize.lean
  Subject:   LINEARIZATION POINTS: when tasks that work in between one another leave what they would
             have left one after the other.

  Each task of a pool carries a request out. At one of its steps, its point, the reply is settled; an
  abstract state that says what the shared state will be once the tasks past their points are through
  changes at the points only, and there as the request alone would change it.
-/
import Mathlib.Logic.Function.Conjugate
import Rpcn.Lib.Tasks

namespace Rpcn.Lib

variable {σ τ κ ρ α : Type}

/-! ## 1. One after the other -/

/-- The requests served in turn: the replies, and the state after them. -/
def serial (serve : α → κ → ρ × α) (a : α) : List κ → List ρ × α
  | [] => ([], a)
  | k :: ks =>
    let x := serve a k
    let y := serial serve x.2 ks
    (x.1 :: y.1, y.2)

theorem serial_snoc {serve : α → κ → ρ × α} {a b c : α} {ks : List κ} {rs : List ρ} {k : κ} {r : ρ}
    (h : serial serve a ks = (rs, b)) (hk : serve b k = (r, c)) :
    serial serve a (ks ++ [k]) = (rs ++ [r], c) := by
  induction ks generalizing a rs with
  | nil =>
    cases h
    simp [serial, hk]
  | cons k' ks ih =>
    simp only [serial, Prod.mk.injEq] at h
    obtain ⟨rfl, hb⟩ := h
    have := ih (Prod.ext rfl hb)
    simp only [List.cons_append, serial, this]

/-! ## 2. Points -/

section Points

variable (serve : α → κ → ρ × α) (request : τ → κ) (reply : τ → Option ρ)

inductive Point (a a' : α) (t t' : τ) : Prop where
  | before (h : reply t = none) (h' : reply t' = none) (ha : a' = a)
  | commit (r : ρ) (h : reply t = none) (h' : reply t' = some r)
      (ha : serve a (request t) = (r, a'))
  | after (h : (reply t).isSome) (h' : reply t' = reply t) (ha : a' = a)

def settled (t : τ) : Option (κ × ρ) := (reply t).map fun r => (request t, r)

/-- **The tasks past their points**, in the order of the points, lead from `a₀` to `a`. -/
def Linear (a₀ : α) (tasks : List τ) (a : α) : Prop :=
  ∃ order : List (κ × ρ), order.Perm (tasks.filterMap (settled request reply)) ∧
    serial serve a₀ (order.map (·.1)) = (order.map (·.2), a)

end Points

theorem filterMap_set_same {f : τ → Option κ} {l : List τ} {i : Nat} {t t' : τ}
    (hi : l[i]? = some t) (h : f t' = f t) : (l.set i t').filterMap f = l.filterMap f := by
  induction l generalizing i with
  | nil => cases hi
  | cons x l ih =>
    cases i with
    | zero =>
      cases hi
      rw [List.set_cons_zero, List.filterMap_cons, List.filterMap_cons, h]
    | succ i =>
      rw [List.set_cons_succ, List.filterMap_cons, List.filterMap_cons, ih hi]

theorem filterMap_set_new {f : τ → Option κ} {l : List τ} {i : Nat} {t t' : τ} {k : κ}
    (hi : l[i]? = some t) (h : f t = none) (h' : f t' = some k) :
    ((l.set i t').filterMap f).Perm (k :: l.filterMap f) := by
  induction l generalizing i with
  | nil => cases hi
  | cons x l ih =>
    cases i with
    | zero =>
      cases hi
      rw [List.set_cons_zero, List.filterMap_cons_some h', List.filterMap_cons_none h]
    | succ i =>
      rw [List.set_cons_succ]
      cases hx : f x with
      | none =>
        rw [List.filterMap_cons_none hx, List.filterMap_cons_none hx]
        exact ih hi
      | some y =>
        rw [List.filterMap_cons_some hx, List.filterMap_cons_some hx]
        exact ((ih hi).cons y).trans (List.Perm.swap k y _)

section Linear

variable {serve : α → κ → ρ × α} {request : τ → κ} {reply : τ → Option ρ} {a₀ a : α}
  {tasks : List τ}

theorem Linear.start (h : ∀ t ∈ tasks, reply t = none) :
    Linear serve request reply a₀ tasks a₀ := by
  refine ⟨[], ?_, rfl⟩
  have hnil : tasks.filterMap (settled request reply) = [] :=
    List.filterMap_eq_nil_iff.mpr fun t ht => by rw [settled, h t ht]; rfl
  rw [hnil]

theorem Linear.step {a' : α} {i : Nat} {t t' : τ} (h : Linear serve request reply a₀ tasks a)
    (hi : tasks[i]? = some t) (hk : request t' = request t)
    (hp : Point serve request reply a a' t t') :
    Linear serve request reply a₀ (tasks.set i t') a' := by
  obtain ⟨order, hperm, hserial⟩ := h
  cases hp with
  | before h h' ha =>
    subst ha
    refine ⟨order, ?_, hserial⟩
    rw [filterMap_set_same hi (by rw [settled, settled, h, h', hk])]
    exact hperm
  | after h h' ha =>
    subst ha
    refine ⟨order, ?_, hserial⟩
    rw [filterMap_set_same hi (by rw [settled, settled, h', hk])]
    exact hperm
  | commit r h h' ha =>
    refine ⟨order ++ [(request t, r)], ?_, ?_⟩
    · have hnew := filterMap_set_new (f := settled request reply) (k := (request t, r)) hi
        (by rw [settled, h]; rfl) (by rw [settled, h', hk]; rfl)
      exact (List.perm_append_singleton _ _).trans ((hperm.cons _).trans hnew.symm)
    · rw [List.map_append, List.map_append]
      exact serial_snoc hserial ha

theorem Linear.done (h : Linear serve request reply a₀ tasks a)
    (hdone : ∀ t ∈ tasks, (reply t).isSome) :
    ∃ order : List (κ × ρ), (order.map fun x => (x.1, some x.2)).Perm
        (tasks.map fun t => (request t, reply t)) ∧
      serial serve a₀ (order.map (·.1)) = (order.map (·.2), a) := by
  obtain ⟨order, hperm, hserial⟩ := h
  refine ⟨order, (hperm.map _).trans ?_, hserial⟩
  have hall : (tasks.filterMap (settled request reply)).map (fun x => (x.1, some x.2)) =
      tasks.map fun t => (request t, reply t) := by
    clear hperm
    induction tasks with
    | nil => rfl
    | cons t tasks ih =>
      obtain ⟨r, hr⟩ := Option.isSome_iff_exists.mp (hdone t List.mem_cons_self)
      have hs : settled request reply t = some (request t, r) := by rw [settled, hr]; rfl
      rw [List.filterMap_cons_some hs, List.map_cons, List.map_cons, hr,
        ih fun t ht => hdone t (List.mem_cons_of_mem _ ht)]
  rw [hall]

end Linear

/-! ## 3. What is left to do -/

section Settle

variable (finish : τ → σ → σ)

/-- **The shared state once every task has done what is left of it.** -/
def settle (tasks : List τ) (s : σ) : σ := tasks.foldl (fun s t => finish t s) s

variable {finish} {tasks : List τ} {i : Nat} {t t' : τ} {s s' : σ}

theorem settle_commute {f : σ → σ} (h : ∀ t ∈ tasks, Function.Commute f (finish t)) :
    Function.Commute f (settle finish tasks) := by
  induction tasks with
  | nil => exact fun _ => rfl
  | cons t tasks ih =>
    intro s
    show f (settle finish tasks (finish t s)) = settle finish tasks (finish t (f s))
    rw [ih (fun u hu => h u (List.mem_cons_of_mem t hu)), h t List.mem_cons_self]

theorem settle_set (hi : i < tasks.length)
    (h : ∀ u ∈ tasks.eraseIdx i, Function.Commute (finish t) (finish u)) (s : σ) :
    settle finish (tasks.set i t) s = settle finish (tasks.eraseIdx i) (finish t s) := by
  induction tasks generalizing i s with
  | nil => exact absurd hi (Nat.not_lt_zero i)
  | cons x tasks ih =>
    cases i with
    | zero => rfl
    | succ i =>
      have hx := h x List.mem_cons_self
      have hrest := ih (Nat.lt_of_succ_lt_succ hi) fun u hu => h u (List.mem_cons_of_mem x hu)
      show settle finish (tasks.set i t) (finish x s) =
        settle finish (tasks.eraseIdx i) (finish x (finish t s))
      rw [hrest, hx]

theorem settle_eq (hi : tasks[i]? = some t)
    (h : ∀ u ∈ tasks.eraseIdx i, Function.Commute (finish t) (finish u)) (s : σ) :
    settle finish tasks s = settle finish (tasks.eraseIdx i) (finish t s) := by
  obtain ⟨hlt, ht⟩ := List.getElem?_eq_some_iff.mp hi
  have hset : tasks.set i t = tasks := by rw [← ht, List.set_getElem_self]
  have := settle_set hlt h s
  rwa [hset] at this

theorem settle_idle (h : ∀ t ∈ tasks, finish t = id) : settle finish tasks s = s := by
  induction tasks generalizing s with
  | nil => rfl
  | cons t tasks ih =>
    show settle finish tasks (finish t s) = s
    rw [ih (fun u hu => h u (List.mem_cons_of_mem t hu)), h t List.mem_cons_self]
    rfl

end Settle

end Rpcn.Lib
