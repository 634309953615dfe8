/-
  File:      Rpcn/Lib/Call.lean
  Subject:   CALLS ON MUTABLE STATE that return a value, return an error or panic.

  A method with a mutable receiver keeps what it wrote before it returned an error, and a panic
  under a lock that is not poisoned keeps it too. `Call` therefore hands back the state in all
  three cases; an operation that must not leave a trace has to be proved so.
-/
import Mathlib.Tactic.Common

namespace Rpcn.Lib

variable {α β : Type}

theorem filterMap_eq_map_filter {f : α → Option β} {p : α → Bool} {g : α → β}
    (h : ∀ a, f a = if p a then some (g a) else none) (l : List α) :
    l.filterMap f = (l.filter p).map g := by
  induction l with
  | nil => rfl
  | cons a l ih =>
    rw [List.filterMap_cons, h a, ih]
    by_cases hp : p a = true <;> simp [hp]

variable {ε : Type}

theorem except_bind_ok {x : Except ε α} {f : α → Except ε β} {b : β} (h : (x >>= f) = .ok b) :
    ∃ a, x = .ok a ∧ f a = .ok b := by
  cases x with
  | error e => cases h
  | ok a => exact ⟨a, rfl, h⟩

theorem except_mapM_returns {f : α → Except ε β} (xs : List α) (h : ∀ x ∈ xs, ∃ y, f x = .ok y) :
    ∃ ys, xs.mapM f = .ok ys := by
  induction xs with
  | nil => exact ⟨[], rfl⟩
  | cons x xs ih =>
    obtain ⟨y, hy⟩ := h x List.mem_cons_self
    obtain ⟨ys, hys⟩ := ih fun z hz => h z (List.mem_cons_of_mem _ hz)
    refine ⟨y :: ys, ?_⟩
    rw [List.mapM_cons, hy, hys]
    rfl

theorem except_mapM_getElem? {f : α → Except ε β} {xs : List α} {ys : List β}
    (h : xs.mapM f = .ok ys) :
    ys.length = xs.length ∧
      ∀ (k : Nat) (x : α), xs[k]? = some x → ∃ y, ys[k]? = some y ∧ f x = .ok y := by
  induction xs generalizing ys with
  | nil =>
    cases h
    exact ⟨rfl, fun k x hx => by simp at hx⟩
  | cons x xs ih =>
    rw [List.mapM_cons] at h
    obtain ⟨y, hy, h⟩ := except_bind_ok h
    obtain ⟨zs, hzs, h⟩ := except_bind_ok h
    cases h
    obtain ⟨hlen, hget⟩ := ih hzs
    refine ⟨by simp [hlen], ?_⟩
    intro k z hz
    cases k with
    | zero =>
      cases Option.some.inj hz
      exact ⟨y, rfl, hy⟩
    | succ k => exact hget k z hz

inductive Outcome (ε π α : Type) where
  | ok (a : α)
  | err (e : ε)
  | panic (p : π)
  deriving DecidableEq, Repr

namespace Outcome

variable {ε π α : Type}

def isOk : Outcome ε π α → Bool
  | .ok _ => true
  | _ => false

def isPanic : Outcome ε π α → Bool
  | .panic _ => true
  | _ => false

def toOption : Outcome ε π α → Option α
  | .ok a => some a
  | _ => none

variable {β : Type}

/-- Sequencing: an error or a panic ends the whole. -/
def bind (x : Outcome ε π α) (f : α → Outcome ε π β) : Outcome ε π β :=
  match x with
  | .ok a => f a
  | .err e => .err e
  | .panic p => .panic p

instance : Monad (Outcome ε π) where
  pure := .ok
  bind := Outcome.bind

instance : LawfulMonad (Outcome ε π) := LawfulMonad.mk' (Outcome ε π)
  (fun x => by cases x <;> rfl)
  (fun _ _ => rfl)
  (fun x _ _ => by cases x <;> rfl)

/-- `r?` on a computation that cannot panic. -/
def ofExcept : Except ε α → Outcome ε π α
  | .ok a => .ok a
  | .error e => .err e

/-- `o.unwrap()`, or an index that must be in range, panicking at `p`. -/
def unwrap (o : Option α) (p : π) : Outcome ε π α := o.elim (.panic p) .ok

@[simp] theorem ok_bind (a : α) (f : α → Outcome ε π β) :
    ((.ok a : Outcome ε π α) >>= f) = f a := rfl

@[simp] theorem unwrap_some (a : α) (p : π) :
    (unwrap (some a) p : Outcome ε π α) = .ok a := rfl

theorem bind_eq_ok {x : Outcome ε π α} {f : α → Outcome ε π β} {b : β} (h : x >>= f = .ok b) :
    ∃ a, x = .ok a ∧ f a = .ok b := by
  cases x with
  | ok a => exact ⟨a, rfl, h⟩
  | err e => cases h
  | panic p => cases h

theorem unwrap_eq_ok {o : Option α} {p : π} {a : α} (h : (unwrap o p : Outcome ε π α) = .ok a) :
    o = some a := by
  cases o with
  | none => cases h
  | some b => exact congrArg some (Outcome.ok.inj h)

theorem mapM_cons_eq_ok {f : α → Outcome ε π β} {x : α} {l : List α} {bs : List β}
    (h : (x :: l).mapM f = .ok bs) :
    ∃ b bs', f x = .ok b ∧ l.mapM f = .ok bs' ∧ bs = b :: bs' := by
  rw [List.mapM_cons] at h
  obtain ⟨b, hb, h⟩ := bind_eq_ok h
  obtain ⟨bs', hbs', h⟩ := bind_eq_ok h
  cases h
  exact ⟨b, bs', hb, hbs', rfl⟩

theorem mem_of_mapM_eq_ok {f : α → Outcome ε π β} {l : List α} {bs : List β}
    (h : l.mapM f = .ok bs) : ∀ b ∈ bs, ∃ a ∈ l, f a = .ok b := by
  induction l generalizing bs with
  | nil =>
    cases h
    exact fun b hb => absurd hb List.not_mem_nil
  | cons x l ih =>
    obtain ⟨b, bs', hb, hbs', rfl⟩ := mapM_cons_eq_ok h
    intro c hc
    rcases List.mem_cons.mp hc with rfl | hc
    · exact ⟨x, List.mem_cons_self, hb⟩
    · obtain ⟨a, ha, he⟩ := ih hbs' c hc
      exact ⟨a, List.mem_cons_of_mem _ ha, he⟩

theorem mapM_ok {f : α → Outcome ε π β} {l : List α} (h : ∀ a ∈ l, ∃ b, f a = .ok b) :
    ∃ bs, l.mapM f = .ok bs := by
  induction l with
  | nil => exact ⟨[], rfl⟩
  | cons x l ih =>
    obtain ⟨b, hb⟩ := h x List.mem_cons_self
    obtain ⟨bs, hbs⟩ := ih fun a ha => h a (List.mem_cons_of_mem _ ha)
    exact ⟨b :: bs, by rw [List.mapM_cons, hb, ok_bind, hbs]; rfl⟩

theorem mapM_drop {f : α → Outcome ε π β} {l : List α} {bs : List β} (h : l.mapM f = .ok bs)
    (n : Nat) : (l.drop n).mapM f = .ok (bs.drop n) := by
  induction n generalizing l bs with
  | zero => exact h
  | succ n ih =>
    cases l with
    | nil =>
      cases h
      rfl
    | cons x l =>
      obtain ⟨b, bs', -, hbs', rfl⟩ := mapM_cons_eq_ok h
      exact ih hbs'

theorem mapM_take {f : α → Outcome ε π β} {l : List α} {bs : List β} (h : l.mapM f = .ok bs)
    (n : Nat) : (l.take n).mapM f = .ok (bs.take n) := by
  induction n generalizing l bs with
  | zero => rfl
  | succ n ih =>
    cases l with
    | nil =>
      cases h
      rfl
    | cons x l =>
      obtain ⟨b, bs', hb, hbs', rfl⟩ := mapM_cons_eq_ok h
      rw [List.take_succ_cons, List.mapM_cons, hb, ok_bind, ih hbs']
      rfl

theorem mapM_map_eq {γ : Type} {f : α → Outcome ε π β} {p : α → γ} {q : β → γ} {l : List α}
    {bs : List β} (h : l.mapM f = .ok bs) (hf : ∀ a b, f a = .ok b → q b = p a) :
    bs.map q = l.map p := by
  induction l generalizing bs with
  | nil =>
    cases h
    rfl
  | cons x l ih =>
    obtain ⟨b, bs', hb, hbs', rfl⟩ := mapM_cons_eq_ok h
    rw [List.map_cons, List.map_cons, hf x b hb, ih hbs']

/-! ### Computations that do not panic -/

theorem isPanic_ofExcept (r : Except ε α) : (ofExcept r : Outcome ε π α).isPanic = false := by
  cases r <;> rfl

theorem isPanic_bind {x : Outcome ε π α} {f : α → Outcome ε π β} (hx : x.isPanic = false)
    (hf : ∀ a, x = .ok a → (f a).isPanic = false) : (x >>= f).isPanic = false := by
  cases x with
  | ok a => exact hf a rfl
  | err e => rfl
  | panic p => cases hx

theorem isOk_bind_pure (x : Outcome ε π α) (f : α → β) :
    (x >>= fun a => (pure (f a) : Outcome ε π β)).isOk = x.isOk := by
  cases x <;> rfl

theorem isPanic_bind_pure (x : Outcome ε π α) (f : α → β) :
    (x >>= fun a => (pure (f a) : Outcome ε π β)).isPanic = x.isPanic := by
  cases x <;> rfl

theorem isPanic_mapM {f : α → Outcome ε π β} {l : List α}
    (h : ∀ a ∈ l, (f a).isPanic = false) : (l.mapM f).isPanic = false := by
  induction l with
  | nil => rfl
  | cons x l ih =>
    rw [List.mapM_cons]
    refine isPanic_bind (h x List.mem_cons_self) fun b _ => ?_
    exact isPanic_bind (ih fun a ha => h a (List.mem_cons_of_mem _ ha)) fun bs _ => rfl

end Outcome

/-- A call on a state of type `σ`: how it ends, and the state it leaves in every case. -/
def Call (ε π σ α : Type) : Type := σ → Outcome ε π α × σ

variable {b : Prop}

namespace Call

variable {ε π σ τ α β : Type}

/-! ## 1. The monad -/

def pure (a : α) : Call ε π σ α := fun s => (.ok a, s)

/-- Sequencing: an error or a panic ends the whole, with the state reached so far. -/
def bind (c : Call ε π σ α) (f : α → Call ε π σ β) : Call ε π σ β := fun s =>
  match c s with
  | (.ok a, s') => f a s'
  | (.err e, s') => (.err e, s')
  | (.panic p, s') => (.panic p, s')

instance : Monad (Call ε π σ) where
  pure := Call.pure
  bind := Call.bind

def read : Call ε π σ σ := fun s => (.ok s, s)

def write (s' : σ) : Call ε π σ Unit := fun _ => (.ok (), s')

def modify (f : σ → σ) : Call ε π σ Unit := fun s => (.ok (), f s)

def fail (e : ε) : Call ε π σ α := fun s => (.err e, s)

def stop (p : π) : Call ε π σ α := fun s => (.panic p, s)

/-- `assert!(b)`, panicking at `p`. -/
def check (b : Bool) (p : π) : Call ε π σ Unit := if b then pure () else stop p

/-- `o.unwrap()`, or an index that must be in range, panicking at `p`. -/
def unwrap (o : Option α) (p : π) : Call ε π σ α :=
  match o with
  | some a => pure a
  | none => stop p

/-- `r?` on a pure fallible computation. -/
def ofExcept (r : Except ε α) : Call ε π σ α :=
  match r with
  | .ok a => pure a
  | .error e => fail e

/-- `match c { Ok(a) => a, Err(_) => d? }`: on an error `d` runs from the state `c` left. -/
def orElse (c d : Call ε π σ α) : Call ε π σ α := fun s =>
  match c s with
  | (.ok a, s') => (.ok a, s')
  | (.err _, s') => d s'
  | (.panic p, s') => (.panic p, s')

/-- Run `c` on the component `x` of the state, writing the component back by `put` whether `c`
    returns, fails or panics. -/
def within (x : τ) (put : τ → σ → σ) (c : Call ε π τ α) : Call ε π σ α := fun s =>
  ((c x).1, put (c x).2 s)

/-- Run `c` on a local variable of value `x`: its final value is part of the result, and is lost
    with the error or the panic. -/
def onLocal (x : τ) (c : Call ε π τ α) : Call ε π σ (α × τ) := fun s =>
  match c x with
  | (.ok a, x') => (.ok (a, x'), s)
  | (.err e, _) => (.err e, s)
  | (.panic p, _) => (.panic p, s)

/-- A pure computation that may panic. -/
def ofPanic (r : Except π α) : Call ε π σ α :=
  match r with
  | .ok a => pure a
  | .error p => stop p

/-- A computation that only reads. -/
def ofOutcome (o : Outcome ε π α) : Call ε π σ α := fun s => (o, s)

/-- Name the value a call returns. -/
def mapOk (f : α → β) (c : Call ε π σ α) : Call ε π σ β := fun s =>
  match c s with
  | (.ok a, s') => (.ok (f a), s')
  | (.err e, s') => (.err e, s')
  | (.panic p, s') => (.panic p, s')

@[simp] theorem pure_run (a : α) (s : σ) : (Pure.pure a : Call ε π σ α) s = (.ok a, s) := rfl

@[simp] theorem read_run (s : σ) : (read : Call ε π σ σ) s = (.ok s, s) := rfl

@[simp] theorem write_run (s s' : σ) : (write s' : Call ε π σ Unit) s = (.ok (), s') := rfl

@[simp] theorem modify_run (f : σ → σ) (s : σ) :
    (modify f : Call ε π σ Unit) s = (.ok (), f s) := rfl

@[simp] theorem fail_run (e : ε) (s : σ) : (fail e : Call ε π σ α) s = (.err e, s) := rfl

@[simp] theorem stop_run (p : π) (s : σ) : (stop p : Call ε π σ α) s = (.panic p, s) := rfl

@[simp] theorem unwrap_some (a : α) (p : π) (s : σ) :
    (unwrap (some a) p : Call ε π σ α) s = (.ok a, s) := rfl

@[simp] theorem unwrap_none (p : π) (s : σ) :
    (unwrap none p : Call ε π σ α) s = (.panic p, s) := rfl

@[simp] theorem ofPanic_ok (a : α) (s : σ) :
    (ofPanic (.ok a) : Call ε π σ α) s = (.ok a, s) := rfl

@[simp] theorem ofExcept_ok (a : α) (s : σ) :
    (ofExcept (.ok a) : Call ε π σ α) s = (.ok a, s) := rfl

@[simp] theorem ofExcept_error (e : ε) (s : σ) :
    (ofExcept (.error e) : Call ε π σ α) s = (.err e, s) := rfl

@[simp] theorem check_true (p : π) (s : σ) : (check true p : Call ε π σ Unit) s = (.ok (), s) := rfl

@[simp] theorem check_false (p : π) (s : σ) :
    (check false p : Call ε π σ Unit) s = (.panic p, s) := rfl

@[simp] theorem within_run (x : τ) (put : τ → σ → σ) (c : Call ε π τ α) (s : σ) :
    within x put c s = ((c x).1, put (c x).2 s) := rfl

@[simp] theorem mapOk_state (f : α → β) (c : Call ε π σ α) (s : σ) :
    (mapOk f c s).2 = (c s).2 := by
  unfold mapOk
  rcases c s with ⟨_ | _ | _, _⟩ <;> rfl

@[simp] theorem mapOk_isOk (f : α → β) (c : Call ε π σ α) (s : σ) :
    (mapOk f c s).1.isOk = (c s).1.isOk := by
  unfold mapOk
  rcases c s with ⟨o, s'⟩
  cases o <;> rfl

theorem mapOk_eq_ok {f : α → β} {c : Call ε π σ α} {s : σ} {b : β}
    (h : (mapOk f c s).1 = .ok b) : ∃ a, (c s).1 = .ok a ∧ f a = b := by
  unfold mapOk at h
  rcases hc : c s with ⟨o, s'⟩
  rw [hc] at h
  cases o with
  | ok a => exact ⟨a, rfl, Outcome.ok.inj h⟩
  | err e => cases h
  | panic p => cases h

theorem mapOk_run_eq_ok {f : α → β} {c : Call ε π σ α} {s s' : σ} {b : β}
    (h : mapOk f c s = (.ok b, s')) : ∃ a, c s = (.ok a, s') ∧ f a = b := by
  obtain ⟨a, ha, hb⟩ := mapOk_eq_ok (congrArg Prod.fst h)
  have hs' := mapOk_state f c s
  rw [h] at hs'
  exact ⟨a, Prod.ext ha hs'.symm, hb⟩

theorem mapOk_eq_err {f : α → β} {c : Call ε π σ α} {s : σ} {e : ε}
    (h : (mapOk f c s).1 = .err e) : (c s).1 = .err e := by
  unfold mapOk at h
  rcases hc : c s with ⟨o, s'⟩
  rw [hc] at h
  cases o with
  | ok a => cases h
  | err e' => exact congrArg Outcome.err (Outcome.err.inj h)
  | panic p => cases h

theorem mapOk_err {f : α → β} {c : Call ε π σ α} {s : σ} {e : ε} (h : (c s).1 = .err e) :
    (mapOk f c s).1 = .err e := by
  unfold mapOk
  rcases hc : c s with ⟨o, s'⟩
  rw [hc] at h
  cases h
  rfl

theorem mapOk_isPanic (f : α → β) (c : Call ε π σ α) (s : σ) :
    (mapOk f c s).1.isPanic = (c s).1.isPanic := by
  unfold mapOk
  rcases c s with ⟨o, s'⟩
  cases o <;> rfl

theorem bind_run (c : Call ε π σ α) (f : α → Call ε π σ β) (s : σ) :
    (c >>= f) s = match c s with
      | (.ok a, s') => f a s'
      | (.err e, s') => (.err e, s')
      | (.panic p, s') => (.panic p, s') := rfl

theorem bind_ok {c : Call ε π σ α} {f : α → Call ε π σ β} {s s' : σ} {a : α}
    (h : c s = (.ok a, s')) : (c >>= f) s = f a s' := by
  rw [bind_run, h]

theorem bind_err {c : Call ε π σ α} {f : α → Call ε π σ β} {s s' : σ} {e : ε}
    (h : c s = (.err e, s')) : (c >>= f) s = (.err e, s') := by
  rw [bind_run, h]

theorem bind_panic {c : Call ε π σ α} {f : α → Call ε π σ β} {s s' : σ} {p : π}
    (h : c s = (.panic p, s')) : (c >>= f) s = (.panic p, s') := by
  rw [bind_run, h]

theorem orElse_run (c d : Call ε π σ α) (s : σ) :
    orElse c d s = match c s with
      | (.ok a, s') => (.ok a, s')
      | (.err _, s') => d s'
      | (.panic p, s') => (.panic p, s') := rfl

theorem bind_eq_ok {c : Call ε π σ α} {f : α → Call ε π σ β} {s s' : σ} {b : β}
    (h : (c >>= f) s = (.ok b, s')) : ∃ a s₁, c s = (.ok a, s₁) ∧ f a s₁ = (.ok b, s') := by
  rw [bind_run] at h
  rcases hc : c s with ⟨o, s₁⟩
  rw [hc] at h
  cases o with
  | ok a => exact ⟨a, s₁, rfl, h⟩
  | err e => cases h
  | panic p => cases h

theorem ofExcept_bind_eq_ok {r : Except ε α} {f : α → Call ε π σ β} {s s' : σ} {b : β}
    (h : (ofExcept r >>= f) s = (.ok b, s')) : ∃ a, r = .ok a ∧ f a s = (.ok b, s') := by
  cases r with
  | ok a => exact ⟨a, rfl, h⟩
  | error e => cases h

theorem unwrap_bind_eq_ok {o : Option α} {p : π} {f : α → Call ε π σ β} {s s' : σ} {b : β}
    (h : (unwrap o p >>= f) s = (.ok b, s')) : ∃ a, o = some a ∧ f a s = (.ok b, s') := by
  cases o with
  | some a => exact ⟨a, rfl, h⟩
  | none => cases h

theorem onLocal_eq_ok {x x' : τ} {c : Call ε π τ α} {a : α} {s s' : σ}
    (h : (onLocal x c : Call ε π σ (α × τ)) s = (.ok (a, x'), s')) : c x = (.ok a, x') := by
  unfold onLocal at h
  rcases hc : c x with ⟨o, y⟩
  rw [hc] at h
  cases o with
  | ok b =>
    cases h
    rfl
  | err e => cases h
  | panic p => cases h

theorem read_bind_run (f : σ → Call ε π σ β) (s : σ) : (read >>= f) s = f s s := rfl

theorem modify_bind_run (g : σ → σ) (f : PUnit → Call ε π σ β) (s : σ) :
    (modify g >>= f) s = f ⟨⟩ (g s) := rfl

/-! ## 2. What a call keeps -/

/-- **The state left is `R`-related to the state found**, however the call ends. -/
def Keeps (R : σ → σ → Prop) (c : Call ε π σ α) : Prop := ∀ s, R s (c s).2

section Keeps

variable {R : σ → σ → Prop} (hR : ∀ s, R s s)
include hR

theorem keeps_pure (a : α) : Keeps R (Pure.pure a : Call ε π σ α) := fun s => hR s

theorem keeps_read : Keeps R (read : Call ε π σ σ) := fun s => hR s

theorem keeps_fail (e : ε) : Keeps R (fail e : Call ε π σ α) := fun s => hR s

theorem keeps_unwrap (o : Option α) (p : π) : Keeps R (unwrap o p : Call ε π σ α) := by
  intro s
  cases o <;> exact hR s

theorem keeps_ofExcept (r : Except ε α) : Keeps R (ofExcept r : Call ε π σ α) := by
  intro s
  cases r <;> exact hR s

theorem keeps_ofPanic (r : Except π α) : Keeps R (ofPanic r : Call ε π σ α) := by
  intro s
  cases r <;> exact hR s

omit hR in
theorem keeps_modify {f : σ → σ} (h : ∀ s, R s (f s)) :
    Keeps R (modify f : Call ε π σ Unit) := h

omit hR in
theorem keeps_bind (hT : ∀ a b c, R a b → R b c → R a c) {c : Call ε π σ α}
    {f : α → Call ε π σ β} (hc : Keeps R c) (hf : ∀ a, Keeps R (f a)) : Keeps R (c >>= f) := by
  intro s
  have h1 := hc s
  rw [bind_run]
  rcases hcs : c s with ⟨o, s'⟩
  rw [hcs] at h1
  cases o with
  | ok a => exact hT _ _ _ h1 (hf a s')
  | err e => exact h1
  | panic p => exact h1

omit hR in
theorem keeps_read_bind {f : σ → Call ε π σ α} (h : ∀ s, R s (f s s).2) :
    Keeps R (read >>= f) := h

omit hR in
theorem keeps_ite {p : Prop} [Decidable p] {c d : Call ε π σ α} (hc : Keeps R c)
    (hd : Keeps R d) : Keeps R (if p then c else d) := by
  by_cases h : p
  · rw [if_pos h]
    exact hc
  · rw [if_neg h]
    exact hd

omit hR in
theorem keeps_read_ite {p : σ → Prop} [DecidablePred p] {f g : σ → Call ε π σ α}
    (hf : ∀ s, p s → R s (f s s).2) (hg : ∀ s, ¬ p s → R s (g s s).2) :
    Keeps R (read >>= fun s => if p s then f s else g s) := by
  refine keeps_read_bind fun s => ?_
  by_cases h : p s
  · rw [if_pos h]
    exact hf s h
  · rw [if_neg h]
    exact hg s h

theorem keeps_forM (hT : ∀ a b c, R a b → R b c → R a c) {xs : List α}
    {f : α → Call ε π σ PUnit} (hf : ∀ a ∈ xs, Keeps R (f a)) : Keeps R (xs.forM f) := by
  induction xs with
  | nil => exact keeps_pure hR _
  | cons x xs ih =>
    exact keeps_bind hT (hf x List.mem_cons_self)
      fun _ => ih fun a ha => hf a (List.mem_cons_of_mem _ ha)

theorem keeps_foldlM (hT : ∀ a b c, R a b → R b c → R a c) {xs : List α}
    {f : β → α → Call ε π σ β} (hf : ∀ b, ∀ a ∈ xs, Keeps R (f b a)) (b : β) :
    Keeps R (xs.foldlM f b) := by
  induction xs generalizing b with
  | nil => exact keeps_pure hR _
  | cons x xs ih =>
    exact keeps_bind hT (hf b x List.mem_cons_self)
      fun b' => ih (fun b a ha => hf b a (List.mem_cons_of_mem _ ha)) b'

end Keeps

/-! ## 3. Panics a call cannot reach -/

/-- **The call never panics at `p`.** -/
def Never (p : π) (c : Call ε π σ α) : Prop := ∀ s, (c s).1 ≠ .panic p

section Never

variable {p : π}

theorem never_pure (a : α) : Never p (Pure.pure a : Call ε π σ α) := fun _ h => by cases h

theorem never_read : Never p (read : Call ε π σ σ) := fun _ h => by cases h

theorem never_modify (f : σ → σ) : Never p (modify f : Call ε π σ Unit) := fun _ h => by cases h

theorem never_write (s' : σ) : Never p (write s' : Call ε π σ Unit) := fun _ h => by cases h

theorem never_check (b : Bool) {q : π} (hq : q ≠ p) : Never p (check b q : Call ε π σ Unit) := by
  intro s h
  cases b with
  | true => cases h
  | false => exact hq (Outcome.panic.inj h)

theorem never_fail (e : ε) : Never p (fail e : Call ε π σ α) := fun _ h => by cases h

theorem never_ofExcept (r : Except ε α) : Never p (ofExcept r : Call ε π σ α) := by
  intro s h
  cases r <;> cases h

theorem never_unwrap (o : Option α) {q : π} (hq : q ≠ p) :
    Never p (unwrap o q : Call ε π σ α) := by
  intro s h
  cases o with
  | none => exact hq (Outcome.panic.inj h)
  | some a => cases h

theorem never_ofPanic {r : Except π α} (hr : r ≠ .error p) :
    Never p (ofPanic r : Call ε π σ α) := by
  intro s h
  cases r with
  | error q => exact hr (congrArg Except.error (Outcome.panic.inj h))
  | ok a => cases h

theorem never_bind {c : Call ε π σ α} {f : α → Call ε π σ β} (hc : Never p c)
    (hf : ∀ a, Never p (f a)) : Never p (c >>= f) := by
  intro s
  have h1 := hc s
  rw [bind_run]
  rcases hcs : c s with ⟨o, s'⟩
  rw [hcs] at h1
  cases o with
  | ok a => exact hf a s'
  | err e => exact fun h => by cases h
  | panic q => exact fun h => h1 (congrArg Outcome.panic (Outcome.panic.inj h))

theorem never_ite [Decidable b] {c d : Call ε π σ α} (hc : Never p c) (hd : Never p d) :
    Never p (if b then c else d) := by
  by_cases h : b
  · rw [if_pos h]
    exact hc
  · rw [if_neg h]
    exact hd

theorem never_forM {xs : List α} {f : α → Call ε π σ PUnit} (hf : ∀ a, Never p (f a)) :
    Never p (xs.forM f) := by
  induction xs with
  | nil => exact never_pure _
  | cons x xs ih => exact never_bind (hf x) fun _ => ih

theorem never_foldlM {xs : List α} {f : β → α → Call ε π σ β} (hf : ∀ b a, Never p (f b a))
    (b : β) : Never p (xs.foldlM f b) := by
  induction xs generalizing b with
  | nil => exact never_pure _
  | cons x xs ih => exact never_bind (hf b x) fun b' => ih b'

theorem never_within {x : τ} {put : τ → σ → σ} {c : Call ε π τ α} (hc : Never p c) :
    Never p (within x put c) := fun _ => hc x

theorem mapOk_ne_panic {f : α → β} {c : Call ε π σ α} {s : σ} (hc : (c s).1 ≠ .panic p) :
    (mapOk f c s).1 ≠ .panic p := by
  intro h
  unfold mapOk at h
  rcases hcs : c s with ⟨o, s'⟩
  rw [hcs] at h hc
  cases o with
  | ok a => cases h
  | err e => cases h
  | panic q => exact hc (congrArg Outcome.panic (Outcome.panic.inj h))

end Never

/-! ## 4. Errors a call cannot return -/

/-- **The call returns no error.** -/
def Unfailing (c : Call ε π σ α) : Prop := ∀ s e, (c s).1 ≠ .err e

theorem unfailing_pure (a : α) : Unfailing (Pure.pure a : Call ε π σ α) := fun _ _ h => by cases h

theorem unfailing_read : Unfailing (read : Call ε π σ σ) := fun _ _ h => by cases h

theorem unfailing_modify (f : σ → σ) : Unfailing (modify f : Call ε π σ Unit) :=
  fun _ _ h => by cases h

theorem unfailing_unwrap (o : Option α) (p : π) : Unfailing (unwrap o p : Call ε π σ α) := by
  intro s e h
  cases o <;> cases h

theorem unfailing_ofExcept {r : Except ε α} {a : α} (hr : r = .ok a) :
    Unfailing (ofExcept r : Call ε π σ α) := by
  intro s e h
  rw [hr] at h
  cases h

theorem unfailing_bind {c : Call ε π σ α} {f : α → Call ε π σ β} (hc : Unfailing c)
    (hf : ∀ a, Unfailing (f a)) : Unfailing (c >>= f) := by
  intro s e
  have h1 := hc s
  rw [bind_run]
  rcases hcs : c s with ⟨o, s'⟩
  rw [hcs] at h1
  cases o with
  | ok a => exact hf a s' e
  | err e' => exact absurd rfl (h1 e')
  | panic p => exact fun h => by cases h

theorem unfailing_ite [Decidable b] {c d : Call ε π σ α} (hc : Unfailing c) (hd : Unfailing d) :
    Unfailing (if b then c else d) := by
  by_cases h : b
  · rw [if_pos h]
    exact hc
  · rw [if_neg h]
    exact hd

theorem unfailing_forM {xs : List α} {f : α → Call ε π σ PUnit}
    (hf : ∀ a ∈ xs, Unfailing (f a)) : Unfailing (xs.forM f) := by
  induction xs with
  | nil => exact unfailing_pure _
  | cons x xs ih =>
    exact unfailing_bind (hf x List.mem_cons_self)
      fun _ => ih fun a ha => hf a (List.mem_cons_of_mem _ ha)

theorem unfailing_foldlM {xs : List α} {f : β → α → Call ε π σ β}
    (hf : ∀ b, ∀ a ∈ xs, Unfailing (f b a)) (b : β) : Unfailing (xs.foldlM f b) := by
  induction xs generalizing b with
  | nil => exact unfailing_pure _
  | cons x xs ih =>
    exact unfailing_bind (hf b x List.mem_cons_self)
      fun b' => ih (fun b a ha => hf b a (List.mem_cons_of_mem _ ha)) b'

theorem foldlM_ok {I : β → σ → Prop} {xs : List α} {f : β → α → Call ε π σ β}
    (hf : ∀ b a s b' s', I b s → f b a s = (.ok b', s') → I b' s') {b b' : β} {s s' : σ}
    (h0 : I b s) (h : xs.foldlM f b s = (.ok b', s')) : I b' s' := by
  induction xs generalizing b s with
  | nil =>
    cases h
    exact h0
  | cons x xs ih =>
    obtain ⟨b₁, s₁, h₁, h⟩ := bind_eq_ok h
    exact ih (hf b x s b₁ s₁ h0 h₁) h

end Call

end Rpcn.Lib
