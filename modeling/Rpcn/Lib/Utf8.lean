/-
  File:      Rpcn/Lib/Utf8.lean
  Subject:   STRINGS AS UTF-8, and cutting one at a byte position.
-/
import Mathlib.Data.List.Basic

namespace Rpcn.Lib

/-! ## 1. Bytes -/

def utf8Chars (cs : List Char) : List UInt8 := cs.flatMap String.utf8EncodeChar

def utf8 (s : String) : List UInt8 := utf8Chars s.toList

variable (c : Char) (cs : List Char)

@[simp] theorem utf8Chars_cons :
    utf8Chars (c :: cs) = String.utf8EncodeChar c ++ utf8Chars cs := rfl

theorem utf8_ofList : utf8 (.ofList cs) = utf8Chars cs := by
  rw [utf8, String.toList_ofList]

theorem length_utf8EncodeChar : (String.utf8EncodeChar c).length = c.utf8Size :=
  String.length_utf8EncodeChar c

theorem zero_mem_utf8EncodeChar : 0 ∈ String.utf8EncodeChar c ↔ c.toNat = 0 := by
  have hne : ∀ n : Nat, 0 < n → n < 256 → (0 : UInt8) ≠ UInt8.ofNat n := by
    intro n hpos hlt h
    have hto := congrArg UInt8.toNat h
    rw [UInt8.toNat_ofNat'] at hto
    have hzero : (0 : UInt8).toNat = 0 := rfl
    omega
  unfold String.utf8EncodeChar
  rw [Char.toNat]
  generalize c.val.toNat = v
  dsimp only
  split
  · rename_i hv
    rw [List.mem_singleton]
    constructor
    · intro h
      by_contra hv0
      exact hne v (by omega) (by omega) h
    · rintro rfl
      rfl
  · rename_i hv
    have hv0 : v ≠ 0 := by omega
    refine iff_of_false ?_ hv0
    split
    · simp only [List.mem_cons, List.not_mem_nil, or_false, not_or]
      exact ⟨hne _ (by omega) (by omega), hne _ (by omega) (by omega)⟩
    · split
      · simp only [List.mem_cons, List.not_mem_nil, or_false, not_or]
        exact ⟨hne _ (by omega) (by omega), hne _ (by omega) (by omega), hne _ (by omega) (by omega)⟩
      · simp only [List.mem_cons, List.not_mem_nil, or_false, not_or]
        exact ⟨hne _ (by omega) (by omega), hne _ (by omega) (by omega), hne _ (by omega) (by omega),
          hne _ (by omega) (by omega)⟩

variable (s : String)

theorem zero_mem_utf8 : 0 ∈ utf8 s ↔ ∃ c ∈ s.toList, c.toNat = 0 := by
  rw [utf8, utf8Chars, List.mem_flatMap]
  exact exists_congr fun c => and_congr_right fun _ => zero_mem_utf8EncodeChar c

/-! ## 2. Cutting -/

/-- The characters that take exactly `n` bytes; `none` inside of a character, or past the end. -/
def cut : Nat → List Char → Option (List Char)
  | 0, _ => some []
  | _ + 1, [] => none
  | n + 1, c :: cs =>
    if c.utf8Size ≤ n + 1 then (cut (n + 1 - c.utf8Size) cs).map (c :: ·) else none

theorem cut_eq_some_iff {cs ds : List Char} {n : Nat} :
    cut n cs = some ds ↔ ds <+: cs ∧ (utf8Chars ds).length = n := by
  induction cs generalizing n ds with
  | nil =>
    cases n with
    | zero =>
      rw [cut, Option.some_inj]
      constructor
      · rintro rfl
        exact ⟨List.prefix_rfl, rfl⟩
      · rintro ⟨h, -⟩
        exact (List.prefix_nil.mp h).symm
    | succ n =>
      rw [cut]
      refine iff_of_false (by simp) ?_
      rintro ⟨h, hlen⟩
      rw [List.prefix_nil.mp h] at hlen
      cases hlen
  | cons c cs ih =>
    have hpos := c.utf8Size_pos
    cases n with
    | zero =>
      rw [cut, Option.some_inj]
      constructor
      · rintro rfl
        exact ⟨ List.nil_prefix, rfl⟩
      · rintro ⟨h, hlen⟩
        cases ds with
        | nil => rfl
        | cons d ds =>
          rw [utf8Chars_cons, List.length_append, length_utf8EncodeChar] at hlen
          have := d.utf8Size_pos
          omega
    | succ n =>
      rw [cut]
      constructor
      · intro h
        split at h
        · rename_i hle
          obtain ⟨ds', hcut, rfl⟩ := Option.map_eq_some_iff.mp h
          obtain ⟨hpre, hlen⟩ := ih.mp hcut
          refine ⟨(List.prefix_cons_inj c).mpr hpre, ?_⟩
          rw [utf8Chars_cons, List.length_append, length_utf8EncodeChar]
          omega
        · cases h
      · rintro ⟨hpre, hlen⟩
        cases ds with
        | nil => cases hlen
        | cons d ds =>
          obtain ⟨rfl, htail⟩ := List.cons_prefix_cons.mp hpre
          rw [utf8Chars_cons, List.length_append, length_utf8EncodeChar] at hlen
          have hcut : cut (n + 1 - d.utf8Size) cs = some ds := ih.mpr ⟨htail, by omega⟩
          rw [if_pos (by omega), hcut]
          rfl

def IsCharBoundary (s : String) (n : Nat) : Prop :=
  ∃ ds, ds <+: s.toList ∧ (utf8Chars ds).length = n

/-- `String::truncate`; `none` is its panic, inside of a character. -/
def truncate (s : String) (newLen : Nat) : Option String :=
  if newLen ≤ (utf8 s).length then (cut newLen s.toList).map .ofList else some s

theorem truncate_spec (n : Nat) :
    (∃ t, truncate s n = some t ∧ t.toList <+: s.toList ∧ (utf8 t).length ≤ n) ∧
      ((utf8 s).length ≤ n ∨ IsCharBoundary s n) ∨
    truncate s n = none ∧ n < (utf8 s).length ∧ ¬ IsCharBoundary s n := by
  unfold truncate
  by_cases hle : n ≤ (utf8 s).length
  · rw [if_pos hle]
    cases hcut : cut n s.toList with
    | some ds =>
      obtain ⟨hpre, hlen⟩ := cut_eq_some_iff.mp hcut
      refine Or.inl ⟨⟨.ofList ds, rfl, ?_, ?_⟩, Or.inr ⟨ds, hpre, hlen⟩⟩
      · rwa [String.toList_ofList]
      · rw [utf8_ofList]
        exact Nat.le_of_eq hlen
    | none =>
      have hno : ¬ IsCharBoundary s n := by
        rintro ⟨ds, hds⟩
        rw [cut_eq_some_iff.mpr hds] at hcut
        cases hcut
      refine Or.inr ⟨rfl, Nat.lt_of_le_of_ne hle ?_, hno⟩
      intro hend
      exact hno ⟨s.toList, List.prefix_rfl, hend.symm⟩
  · rw [if_neg hle]
    exact Or.inl ⟨⟨s, rfl, List.prefix_rfl, by omega⟩, Or.inl (by omega)⟩

end Rpcn.Lib
