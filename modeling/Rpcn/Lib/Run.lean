/-
  File:      Rpcn/Lib/Run.lean
  Subject:   RUNS OF A SHARED COMPONENT: requests served one at a time, in any order.

  A component behind one lock serves its requests one after the other; which request comes next,
  and every choice left open by the component (a random pick, the iteration order of a hash set),
  is part of the input. `System` is such a component, `Run` the inductive set of its histories
  with the state after them. A statement about every `Run` is one about every order of requests.
-/
import Mathlib.Tactic.Common

namespace Rpcn.Lib

structure System (σ ι ω : Type) where
  init : σ
  enabled : σ → ι → Prop
  step : σ → ι → ω × σ

namespace System

variable {σ ι ω : Type}

inductive Run (M : System σ ι ω) : List (ι × ω) → σ → Prop where
  | start : Run M [] M.init
  | step {es : List (ι × ω)} {s : σ} (i : ι) (h : Run M es s) (he : M.enabled s i) :
      Run M (es ++ [(i, (M.step s i).1)]) (M.step s i).2

/-- The component whose inputs meet `G` in the state they arrive in. -/
def restrict (M : System σ ι ω) (G : σ → ι → Prop) : System σ ι ω where
  init := M.init
  enabled s i := M.enabled s i ∧ G s i
  step := M.step

variable {M : System σ ι ω} {es : List (ι × ω)} {s : σ}

theorem Run.history {I : List (ι × ω) → σ → Prop} (h0 : I [] M.init)
    (hs : ∀ es s i, M.Run es s → I es s → M.enabled s i →
      I (es ++ [(i, (M.step s i).1)]) (M.step s i).2) (h : M.Run es s) : I es s := by
  induction h with
  | start => exact h0
  | step i h he ih => exact hs _ _ i h ih he

theorem Run.invariant {I : σ → Prop} (h0 : I M.init)
    (hs : ∀ s i, I s → M.enabled s i → I (M.step s i).2) (h : M.Run es s) : I s :=
  h.history (I := fun _ s => I s) h0 fun _ s i _ hI he => hs s i hI he

theorem Run.unrestrict {G : σ → ι → Prop} (h : (M.restrict G).Run es s) : M.Run es s := by
  induction h with
  | start => exact .start
  | step i _ he ih => exact .step i ih he.1

theorem Run.restrict_true (h : M.Run es s) : (M.restrict fun _ _ => True).Run es s := by
  induction h with
  | start => exact .start
  | step i _ he ih => exact .step i ih ⟨he, trivial⟩

/-- **The component with a record beside it**, which each step may write to and none reads. -/
def observed {γ : Type} (M : System σ ι ω) (g₀ : γ) (note : σ → ι → ω × σ → γ → γ) :
    System (σ × γ) ι ω where
  init := (M.init, g₀)
  enabled s i := M.enabled s.1 i
  step s i := ((M.step s.1 i).1, (M.step s.1 i).2, note s.1 i (M.step s.1 i) s.2)

theorem Run.unobserved {γ : Type} {g₀ : γ} {note : σ → ι → ω × σ → γ → γ} {s : σ × γ}
    (h : (M.observed g₀ note).Run es s) : M.Run es s.1 := by
  induction h with
  | start => exact .start
  | step i _ he ih => exact .step i ih he

theorem Run.split {before after : List (ι × ω)} {i : ι} {o : ω}
    (h : M.Run (before ++ (i, o) :: after) s) :
    ∃ s₁, M.Run before s₁ ∧ M.enabled s₁ i ∧ o = (M.step s₁ i).1 ∧
      M.Run (before ++ [(i, o)]) (M.step s₁ i).2 := by
  generalize hes : before ++ (i, o) :: after = es at h
  induction h generalizing after with
  | start => simp at hes
  | @step es s j h he ih =>
    rcases List.eq_nil_or_concat after with rfl | ⟨after, x, rfl⟩
    · obtain ⟨rfl, hx⟩ := List.append_inj' hes rfl
      cases hx
      exact ⟨s, h, he, rfl, .step _ h he⟩
    · have hes' : (before ++ (i, o) :: after) ++ [x] = es ++ [(j, (M.step s j).1)] := by
        rw [← hes, List.concat_eq_append, List.append_assoc, List.cons_append]
      exact ih (List.append_inj' hes' rfl).1

/-- The component of a step function that is `none` where the input is not possible. -/
def ofPartial [Inhabited ω] (s₀ : σ) (run : σ → ι → Option (ω × σ)) : System σ ι ω where
  init := s₀
  enabled s i := (run s i).isSome
  step s i := (run s i).getD (default, s)

section OfPartial

variable [Inhabited ω] {s₀ : σ} {run : σ → ι → Option (ω × σ)}

theorem Run.snoc {i : ι} {e : ω} {s' : σ} (h : (ofPartial s₀ run).Run es s)
    (hi : run s i = some (e, s')) : (ofPartial s₀ run).Run (es ++ [(i, e)]) s' := by
  have hstep : (ofPartial s₀ run).step s i = (e, s') := by simp [ofPartial, hi]
  have := Run.step i h (by simp [ofPartial, hi])
  rwa [hstep] at this

theorem Run.snoc_restrict {G : σ → ι → Prop} {i : ι} {e : ω} {s' : σ}
    (h : ((ofPartial s₀ run).restrict G).Run es s) (hg : G s i) (hi : run s i = some (e, s')) :
    ((ofPartial s₀ run).restrict G).Run (es ++ [(i, e)]) s' := by
  have hstep : ((ofPartial s₀ run).restrict G).step s i = (e, s') := by
    simp [restrict, ofPartial, hi]
  have := Run.step i h ⟨by simp [ofPartial, hi], hg⟩
  rwa [hstep] at this

theorem Run.carried {I : List (ι × ω) → σ → Prop} (h0 : I [] s₀)
    (hs : ∀ es s i e s', (ofPartial s₀ run).Run es s → I es s → run s i = some (e, s') →
      I (es ++ [(i, e)]) s') (h : (ofPartial s₀ run).Run es s) : I es s := by
  refine h.history h0 ?_
  intro es s i hr hI he
  obtain ⟨⟨e, s'⟩, hi⟩ := Option.isSome_iff_exists.mp he
  have hstep : (ofPartial s₀ run).step s i = (e, s') := by simp [ofPartial, hi]
  rw [hstep]
  exact hs es s i e s' hr hI hi

theorem Run.carried_restrict {G : σ → ι → Prop} {I : List (ι × ω) → σ → Prop} (h0 : I [] s₀)
    (hs : ∀ es s i e s', (ofPartial s₀ run).Run es s → G s i → I es s → run s i = some (e, s') →
      I (es ++ [(i, e)]) s') (h : ((ofPartial s₀ run).restrict G).Run es s) : I es s := by
  refine h.history h0 ?_
  intro es s i hr hI he
  obtain ⟨⟨e, s'⟩, hi⟩ := Option.isSome_iff_exists.mp he.1
  have hstep : ((ofPartial s₀ run).restrict G).step s i = (e, s') := by
    simp [restrict, ofPartial, hi]
  rw [hstep]
  exact hs es s i e s' hr.unrestrict he.2 hI hi

theorem Run.split_restrict {G : σ → ι → Prop} {before after : List (ι × ω)} {i : ι} {o : ω}
    (h : ((ofPartial s₀ run).restrict G).Run (before ++ (i, o) :: after) s) :
    ∃ s₁ s₂, ((ofPartial s₀ run).restrict G).Run before s₁ ∧ G s₁ i ∧ run s₁ i = some (o, s₂) ∧
      ((ofPartial s₀ run).restrict G).Run (before ++ [(i, o)]) s₂ := by
  obtain ⟨s₁, hb, he, ho, hu⟩ := h.split
  obtain ⟨⟨e, s₂⟩, hi⟩ := Option.isSome_iff_exists.mp he.1
  have hstep : ((ofPartial s₀ run).restrict G).step s₁ i = (e, s₂) := by
    simp [restrict, ofPartial, hi]
  rw [hstep] at ho hu
  exact ⟨s₁, s₂, hb, he.2, ho ▸ hi, hu⟩

def execute (run : σ → ι → Option (ω × σ)) (s : σ) : List ι → Option (List (ι × ω) × σ)
  | [] => some ([], s)
  | i :: is =>
    match run s i with
    | none => none
    | some (e, s') => (execute run s' is).map fun r => ((i, e) :: r.1, r.2)

theorem Run.execute {is : List ι} {r : List (ι × ω) × σ} (h : (ofPartial s₀ run).Run es s)
    (hx : System.execute run s is = some r) : (ofPartial s₀ run).Run (es ++ r.1) r.2 := by
  induction is generalizing es s r with
  | nil =>
    cases hx
    rw [List.append_nil]
    exact h
  | cons i is ih =>
    rw [System.execute] at hx
    split at hx
    · cases hx
    · rename_i e s' hi
      obtain ⟨r', hr', rfl⟩ := Option.map_eq_some_iff.mp hx
      have := ih (h.snoc hi) hr'
      rwa [List.append_assoc] at this

theorem Run.execute_restrict {G : σ → ι → Prop} {g : σ → ι → Bool}
    (hg : ∀ s i, g s i = true → G s i) {is : List ι} {r : List (ι × ω) × σ}
    (h : ((ofPartial s₀ run).restrict G).Run es s)
    (hx : System.execute (fun s i => if g s i then run s i else none) s is = some r) :
    ((ofPartial s₀ run).restrict G).Run (es ++ r.1) r.2 := by
  induction is generalizing es s r with
  | nil =>
    cases hx
    rw [List.append_nil]
    exact h
  | cons i is ih =>
    rw [System.execute] at hx
    split at hx
    · cases hx
    · rename_i e s' hi
      split at hi
      · rename_i hgi
        obtain ⟨r', hr', rfl⟩ := Option.map_eq_some_iff.mp hx
        have := ih (h.snoc_restrict (hg s i hgi) hi) hr'
        rwa [List.append_assoc] at this
      · cases hi

end OfPartial

end System

section Along

variable {σ ι : Type} (step : σ → ι → σ) (P : σ → ι → Prop)

/-- **The law holds all along the inputs**: for each of them, in the state the ones before it leave. -/
def Along (s : σ) (is : List ι) : Prop :=
  ∀ before i, before ++ [i] <+: is → P (before.foldl step s) i

theorem along_nil (s : σ) : Along step P s [] := by
  intro before i h
  simp at h

theorem along_cons (s : σ) (i : ι) (is : List ι) :
    Along step P s (i :: is) ↔ P s i ∧ Along step P (step s i) is := by
  constructor
  · intro h
    refine ⟨h [] i ⟨is, rfl⟩, ?_⟩
    intro before j hj
    exact h (i :: before) j ((List.prefix_cons_inj i).mpr hj)
  · rintro ⟨hi, h⟩ before j hj
    cases before with
    | nil =>
      obtain ⟨rfl, -⟩ := List.cons_prefix_cons.mp hj
      exact hi
    | cons b before =>
      obtain ⟨rfl, hj'⟩ := List.cons_prefix_cons.mp hj
      exact h before j hj'

end Along

end Rpcn.Lib
