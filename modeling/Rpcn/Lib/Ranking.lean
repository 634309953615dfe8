/-
  File:      Rpcn/Lib/Ranking.lean
  Subject:   RANKINGS: lists in strict rank order, and truncated copies of them.

  A ranking orders entries by a strict order `lt` that need not compare every two values of the
  type, only those listed. A truncated copy holds the first `n` entries and nothing of the rest.
-/
import Mathlib.Data.List.Sort
import Mathlib.Data.Multiset.Filter

namespace Rpcn.Lib

variable {α κ : Type} {lt : α → α → Prop}

/-! ## 1. One more entry -/

/-- Comparing by one key and, where it ties, by what follows. -/
theorem lex_trans (lt : α → α → Prop) (htrans : ∀ {x y z}, lt x y → lt y z → lt x z)
    {x y z : α} {p q r : Prop}
    (h : lt x y ∨ x = y ∧ p) (h' : lt y z ∨ y = z ∧ q) (hpq : p → q → r) :
    lt x z ∨ x = z ∧ r := by
  rcases h with h | ⟨rfl, hp⟩
  · rcases h' with h' | ⟨rfl, -⟩
    · exact Or.inl (htrans h h')
    · exact Or.inl h
  · exact h'.imp_right fun ⟨e, hq⟩ => ⟨e, hpq hp hq⟩

theorem ordered_of_ranked [IsStrictOrder α lt] {l : List α} (h : l.Pairwise lt) :
    l.Pairwise fun b c => ¬ lt c b :=
  h.imp fun hbc hcb => Std.Irrefl.irrefl _ (IsTrans.trans _ _ _ hbc hcb)

section Insert

variable [DecidableRel lt]

theorem exists_split [IsStrictOrder α lt] {a : α} {l : List α}
    (hl : l.Pairwise fun b c => ¬ lt c b) (hc : ∀ b ∈ l, lt a b ∨ lt b a) :
    ∃ as bs, l = as ++ bs ∧ l.orderedInsert lt a = as ++ a :: bs ∧
      (∀ b ∈ as, lt b a) ∧ ∀ b ∈ bs, lt a b := by
  induction l with
  | nil => exact ⟨[], [], rfl, rfl, by simp, by simp⟩
  | cons b l ih =>
    obtain ⟨hb, hl⟩ := List.pairwise_cons.mp hl
    by_cases h : lt a b
    · refine ⟨[], b :: l, rfl, List.orderedInsert_cons_of_le lt l h, by simp, ?_⟩
      intro x hx
      rcases List.mem_cons.mp hx with rfl | hx
      · exact h
      · refine (hc x (List.mem_cons_of_mem _ hx)).resolve_right fun hxa => ?_
        exact hb x hx (IsTrans.trans _ _ _ hxa h)
    · obtain ⟨as, bs, rfl, hins, has, hbs⟩ := ih hl fun x hx => hc x (List.mem_cons_of_mem _ hx)
      refine ⟨b :: as, bs, rfl, ?_, ?_, hbs⟩
      · rw [List.orderedInsert_of_not_le lt _ h, hins, List.cons_append]
      · intro x hx
        rcases List.mem_cons.mp hx with rfl | hx
        · exact (hc x List.mem_cons_self).resolve_left h
        · exact has x hx

theorem ranked_orderedInsert [IsStrictOrder α lt] {a : α} {l : List α} (hl : l.Pairwise lt)
    (hc : ∀ b ∈ l, lt a b ∨ lt b a) : (l.orderedInsert lt a).Pairwise lt := by
  obtain ⟨as, bs, rfl, hins, has, hbs⟩ := exists_split (ordered_of_ranked hl) hc
  obtain ⟨h1, h2, h3⟩ := List.pairwise_append.mp hl
  rw [hins, List.pairwise_append, List.pairwise_cons]
  refine ⟨h1, ⟨hbs, h2⟩, ?_⟩
  intro x hx y hy
  rcases List.mem_cons.mp hy with rfl | hy
  · exact has x hx
  · exact h3 x hx y hy

theorem ordered_orderedInsert [IsStrictOrder α lt] {a : α} {l : List α}
    (hl : l.Pairwise fun b c => ¬ lt c b) (hc : ∀ b ∈ l, lt a b ∨ lt b a) :
    (l.orderedInsert lt a).Pairwise fun b c => ¬ lt c b := by
  obtain ⟨as, bs, rfl, hins, has, hbs⟩ := exists_split hl hc
  obtain ⟨h1, h2, h3⟩ := List.pairwise_append.mp hl
  rw [hins, List.pairwise_append, List.pairwise_cons]
  refine ⟨h1, ⟨fun y hy hya => ?_, h2⟩, ?_⟩
  · exact Std.Irrefl.irrefl _ (IsTrans.trans _ _ _ (hbs y hy) hya)
  · intro x hx y hy
    rcases List.mem_cons.mp hy with rfl | hy
    · exact fun hax => Std.Irrefl.irrefl _ (IsTrans.trans _ _ _ (has x hx) hax)
    · exact h3 x hx y hy

theorem take_orderedInsert (a : α) (l : List α) (n : Nat) :
    (l.orderedInsert lt a).take n = ((l.take n).orderedInsert lt a).take n := by
  induction l generalizing n with
  | nil => simp
  | cons b l ih =>
    cases n with
    | zero => simp
    | succ n =>
      by_cases h : lt a b
      · cases n with
        | zero => simp [h]
        | succ n => simp [h, List.take_take]
      · simp [h, ih n]

theorem orderedInsert_append_of_lt {a : α} (c : List α) {d : List α} (hd : ∀ b ∈ d, lt a b) :
    (c ++ d).orderedInsert lt a = c.orderedInsert lt a ++ d := by
  induction c with
  | nil =>
    cases d with
    | nil => rfl
    | cons b d => simp [hd b List.mem_cons_self]
  | cons b c ih =>
    by_cases h : lt a b
    · simp [h]
    · simp [h, ih]

theorem orderedInsert_append_of_not_lt {a : α} {c : List α} (d : List α)
    (hc : ∀ b ∈ c, ¬ lt a b) : (c ++ d).orderedInsert lt a = c ++ d.orderedInsert lt a := by
  induction c with
  | nil => rfl
  | cons b c ih =>
    have hb := hc b List.mem_cons_self
    simp [hb, ih fun x hx => hc x (List.mem_cons_of_mem _ hx)]

theorem orderedInsert_of_last_lt [IsStrictOrder α lt] {a last : α} {init : List α}
    (hl : (init ++ [last]).Pairwise fun b c => ¬ lt c b) (h : lt last a) :
    (init ++ [last]).orderedInsert lt a = init ++ [last] ++ [a] := by
  have hnone : ∀ b ∈ init ++ [last], ¬ lt a b := by
    intro b hb hab
    rcases List.mem_append.mp hb with hb | hb
    · have hlast := (List.pairwise_append.mp hl).2.2 b hb last List.mem_cons_self
      exact hlast (IsTrans.trans _ _ _ h hab)
    · cases List.mem_singleton.mp hb
      exact Std.Irrefl.irrefl _ (IsTrans.trans _ _ _ h hab)
  have hend := orderedInsert_append_of_not_lt [] hnone
  rwa [List.append_nil, List.orderedInsert_nil] at hend

end Insert

/-! ## 2. Listings -/

structure Listing (lt : α → α → Prop) (rows : Multiset α) (l : List α) : Prop where
  rows_eq : (l : Multiset α) = rows
  ranked : l.Pairwise lt

theorem Listing.unique [IsStrictOrder α lt] {rows : Multiset α} {l l' : List α}
    (h : Listing lt rows l) (h' : Listing lt rows l') : l = l' := by
  refine List.Perm.eq_of_pairwise ?_ h.ranked h'.ranked
    (Multiset.coe_eq_coe.mp (h.rows_eq.trans h'.rows_eq.symm))
  intro a b _ _ hab hba
  exact absurd (IsTrans.trans _ _ _ hab hba) (Std.Irrefl.irrefl a)

theorem Listing.mem {rows : Multiset α} {l : List α} (h : Listing lt rows l) {a : α} :
    a ∈ l ↔ a ∈ rows := by
  rw [← h.rows_eq, Multiset.mem_coe]

/-- The number of entries of the collection that rank before `b`. -/
def place (lt : α → α → Prop) [DecidableRel lt] (rows : Multiset α) (b : α) : Nat :=
  rows.countP fun x => lt x b

variable {i : Nat}

theorem Listing.place_eq [DecidableRel lt] [IsStrictOrder α lt] {rows : Multiset α} {l : List α}
    (h : Listing lt rows l) {b : α} (hb : l[i]? = some b) : place lt rows b = i := by
  obtain ⟨as, bs, rfl, hlen⟩ : ∃ as bs, l = as ++ b :: bs ∧ as.length = i := by
    obtain ⟨hi, rfl⟩ := List.getElem?_eq_some_iff.mp hb
    refine ⟨l.take i, l.drop (i + 1), ?_, by simp; omega⟩
    rw [← List.drop_eq_getElem_cons hi, List.take_append_drop]
  have hranked := h.ranked
  rw [List.pairwise_append, List.pairwise_cons] at hranked
  obtain ⟨_, ⟨hafter, _⟩, hbefore⟩ := hranked
  have hlow : as.countP (fun x => lt x b) = as.length :=
    List.countP_eq_length.mpr fun x hx => by simpa using hbefore x hx b List.mem_cons_self
  have hhigh : bs.countP (fun x => lt x b) = 0 := by
    rw [List.countP_eq_zero]
    intro x hx hlt
    exact Std.Irrefl.irrefl x (IsTrans.trans _ _ _ (by simpa using hlt) (hafter x hx))
  have hself : ¬ lt b b := Std.Irrefl.irrefl b
  unfold place
  rw [← h.rows_eq, Multiset.coe_countP, List.countP_append, List.countP_cons, hlow, hhigh]
  simp [hself, hlen]

theorem Listing.mem_take_iff [DecidableRel lt] [IsStrictOrder α lt] {rows : Multiset α}
    {l : List α} (h : Listing lt rows l) {n : Nat} {b : α} :
    b ∈ l.take n ↔ b ∈ rows ∧ place lt rows b < n := by
  rw [← h.mem, List.mem_take_iff_getElem]
  refine ⟨?_, ?_⟩
  · rintro ⟨i, hi, rfl⟩
    exact ⟨List.getElem_mem _, by rw [h.place_eq (List.getElem?_eq_getElem _)]; omega⟩
  · rintro ⟨hb, hn⟩
    obtain ⟨i, hi, rfl⟩ := List.getElem_of_mem hb
    rw [h.place_eq (List.getElem?_eq_getElem hi)] at hn
    exact ⟨i, by omega, rfl⟩

theorem Listing.mem_drop_iff [DecidableRel lt] [IsStrictOrder α lt] {rows : Multiset α}
    {l : List α} (h : Listing lt rows l) {n : Nat} {b : α} :
    b ∈ l.drop n ↔ b ∈ rows ∧ n ≤ place lt rows b := by
  rw [← h.mem, List.mem_drop_iff_getElem]
  refine ⟨?_, ?_⟩
  · rintro ⟨i, hi, rfl⟩
    exact ⟨List.getElem_mem _, by rw [h.place_eq (List.getElem?_eq_getElem _)]; omega⟩
  · rintro ⟨hb, hn⟩
    obtain ⟨i, hi, rfl⟩ := List.getElem_of_mem hb
    rw [h.place_eq (List.getElem?_eq_getElem hi)] at hn
    refine ⟨i - n, by omega, ?_⟩
    congr 1
    omega

/-! ## 3. Replacing the entry of a key -/

variable (n : Nat)

section Record

variable [DecidableRel lt] [DecidableEq κ] (key : α → κ)

def others (a : α) (l : List α) : List α := l.filter fun b => key b ≠ key a

/-- The first `n` entries once `a` has replaced the entry of its key. -/
def record (lt : α → α → Prop) [DecidableRel lt] (n : Nat) (a : α) (l : List α) : List α :=
  ((others key a l).orderedInsert lt a).take n

variable {key}

theorem mem_others {a b : α} {l : List α} : b ∈ others key a l ↔ b ∈ l ∧ key b ≠ key a := by
  simp [others]

theorem others_eq_self {a : α} {l : List α} (h : ∀ b ∈ l, key b ≠ key a) :
    others key a l = l := by
  unfold others
  exact List.filter_eq_self.mpr fun b hb => by simpa using h b hb

theorem others_eq_eraseIdx {a b : α} {l : List α} (hn : (l.map key).Nodup) (hb : l[i]? = some b)
    (hk : key b = key a) : others key a l = l.eraseIdx i := by
  induction l generalizing i with
  | nil => simp at hb
  | cons c l ih =>
    rw [List.map_cons, List.nodup_cons] at hn
    cases i with
    | zero =>
      have hc : c = b := by simpa using hb
      subst hc
      have hrest : others key a l = l :=
        others_eq_self fun x hx e => hn.1 (List.mem_map.mpr ⟨x, hx, e.trans hk.symm⟩)
      simpa [others, hk] using hrest
    | succ i =>
      have hc : key c ≠ key a := by
        intro e
        refine hn.1 (List.mem_map.mpr ⟨b, List.mem_of_getElem? (by simpa using hb), ?_⟩)
        rw [hk, e]
      have hrest := ih hn.2 (by simpa using hb)
      unfold others at hrest ⊢
      rw [List.eraseIdx_cons_succ, List.filter_cons_of_pos (by simpa using hc), hrest]

theorem length_others {a b : α} {l : List α} (hn : (l.map key).Nodup) (hb : b ∈ l)
    (hk : key b = key a) : (others key a l).length + 1 = l.length := by
  have hmem : key a ∈ l.map key := hk ▸ List.mem_map_of_mem hb
  have hone : l.countP (fun x => key x = key a) = 1 := by
    have := List.count_eq_one_of_mem hn hmem
    rwa [List.count, List.countP_map] at this
  have hsum := List.length_eq_countP_add_countP (l := l) fun x => decide (key x = key a)
  have hrest : (others key a l).length = l.countP fun x => ¬ (decide (key x = key a) = true) := by
    unfold others
    rw [← List.countP_eq_length_filter]
    simp
  omega

theorem map_record {f : α → α} (hkey : ∀ a, key (f a) = key a)
    (hlt : ∀ a b, lt (f a) (f b) ↔ lt a b) (n : Nat) (a : α) (l : List α) :
    (record key lt n a l).map f = record key lt n (f a) (l.map f) := by
  have hothers : (others key a l).map f = others key (f a) (l.map f) := by
    unfold others
    rw [List.filter_map]
    congr 2
    funext b
    simp [hkey]
  unfold record
  rw [List.map_take, List.map_orderedInsert lt lt f _ a (fun b _ => (hlt b a).symm)
    fun b _ => (hlt a b).symm, hothers]

theorem nodup_orderedInsert_others {a : α} {l : List α} (hn : (l.map key).Nodup) :
    (((others key a l).orderedInsert lt a).map key).Nodup := by
  rw [((List.perm_orderedInsert lt a (others key a l)).map key).nodup_iff, List.map_cons,
    List.nodup_cons]
  refine ⟨?_, hn.sublist (List.filter_sublist.map key)⟩
  intro hmem
  obtain ⟨b, hb, hk⟩ := List.mem_map.mp hmem
  exact (mem_others.mp hb).2 hk

theorem Listing.record [IsStrictOrder α lt] {rows : Multiset α} {l : List α} {a : α}
    (h : Listing lt rows l) (hc : ∀ b ∈ others key a l, lt a b ∨ lt b a) :
    Listing lt (a ::ₘ rows.filter fun b => key b ≠ key a)
      ((others key a l).orderedInsert lt a) := by
  refine ⟨?_, ranked_orderedInsert (h.ranked.filter _) hc⟩
  rw [Multiset.coe_eq_coe.mpr (List.perm_orderedInsert lt a _), ← h.rows_eq, Multiset.filter_coe,
    Multiset.cons_coe]
  rfl

theorem others_append (a : α) (c d : List α) :
    others key a (c ++ d) = others key a c ++ others key a d := List.filter_append ..

theorem record_take_of_absent {l : List α} {a : α} (h : ∀ b ∈ l.take n, key b ≠ key a) :
    record key lt n a (l.take n) = record key lt n a l := by
  have hcut : (others key a l).take n = l.take n := by
    rcases Nat.lt_or_ge l.length n with hlt | hge
    · rw [List.take_of_length_le (Nat.le_of_lt hlt)] at h ⊢
      rw [others_eq_self h, List.take_of_length_le (Nat.le_of_lt hlt)]
    · have hlen : (l.take n).length = n := by simpa using hge
      calc (others key a l).take n
          = (others key a (l.take n ++ l.drop n)).take n := by rw [List.take_append_drop]
        _ = (l.take n ++ others key a (l.drop n)).take n := by
              rw [others_append, others_eq_self h]
        _ = l.take n := by rw [List.take_append_of_le_length (by omega), List.take_take, min_self]
  unfold record
  rw [others_eq_self h, take_orderedInsert a (others key a l), hcut]

theorem record_take_of_present [IsStrictOrder α lt] {l : List α} {a b : α} (hl : l.Pairwise lt)
    (hn : (l.map key).Nodup) (hc : ∀ x ∈ others key a l, lt a x ∨ lt x a) (hb : b ∈ l.take n)
    (hk : key b = key a) :
    record key lt n a (l.take n) = record key lt n a l ↔ ∀ x ∈ l.drop n, lt a x := by
  have hl' : l = l.take n ++ l.drop n := (List.take_append_drop n l).symm
  have hlen := length_others (hn.sublist ((List.take_sublist n l).map key)) hb hk
  have hrest : others key a (l.drop n) = l.drop n := by
    refine others_eq_self fun x hx hkx => ?_
    rw [hl', List.map_append] at hn
    exact (List.nodup_append.mp hn).2.2 _ (List.mem_map_of_mem hb) _ (List.mem_map_of_mem hx)
      (hk.trans hkx.symm)
  have hwhole : others key a l = others key a (l.take n) ++ l.drop n := by
    rw [← hrest, ← others_append, ← hl']
  have hranked : (others key a (l.take n) ++ l.drop n).Pairwise lt := hwhole ▸ hl.filter _
  unfold record
  rw [hwhole] at hc ⊢
  cases hd : l.drop n with
  | nil => simp
  | cons y d =>
    rw [hd] at hc hranked
    have hfull : (l.take n).length = n := by
      have : (l.drop n).length = d.length + 1 := by simp [hd]
      simp at this ⊢
      omega
    have hyd : ∀ x ∈ d, lt y x := by
      have := (List.pairwise_append.mp hranked).2.1
      exact (List.pairwise_cons.mp this).1
    have hy : key y ≠ key a := by
      have : y ∈ others key a (l.drop n) := by rw [hrest, hd]; exact List.mem_cons_self
      exact (mem_others.mp this).2
    have hins : ((others key a (l.take n)).orderedInsert lt a).length = n := by
      rw [List.orderedInsert_length]
      omega
    constructor
    · intro heq
      suffices hay : lt a y by
        intro x hx
        rcases List.mem_cons.mp hx with rfl | hx
        · exact hay
        · exact IsTrans.trans _ _ _ hay (hyd x hx)
      by_contra hay
      -- then the whole gives the place to `y`, the copy to `a`
      have hya : lt y a := (hc y (by simp)).resolve_left hay
      have hbefore : ∀ x ∈ others key a (l.take n), ¬ lt a x := by
        intro x hx hax
        have hxy := (List.pairwise_append.mp hranked).2.2 x hx y List.mem_cons_self
        exact hay (IsTrans.trans _ _ _ hax hxy)
      rw [orderedInsert_append_of_not_lt _ hbefore, List.orderedInsert_of_not_le lt _ hay] at heq
      have hcopy := orderedInsert_append_of_not_lt [] hbefore
      rw [List.append_nil, List.orderedInsert_nil] at hcopy
      rw [hcopy, List.take_append, List.take_append] at heq
      have hone : n - (others key a (l.take n)).length = 1 := by omega
      rw [hone] at heq
      have : a = y := by simpa using heq
      exact hy (this ▸ rfl)
    · intro hay
      rw [orderedInsert_append_of_lt _ hay, List.take_append_of_le_length (by omega)]

theorem record_take_iff [IsStrictOrder α lt] {l : List α} {a : α} (hl : l.Pairwise lt)
    (hn : (l.map key).Nodup) (hc : ∀ b ∈ others key a l, lt a b ∨ lt b a) :
    record key lt n a (l.take n) = record key lt n a l ↔
      (∀ b ∈ l.take n, key b ≠ key a) ∨ ∀ b ∈ l.drop n, lt a b := by
  by_cases h : ∀ b ∈ l.take n, key b ≠ key a
  · exact iff_of_true (record_take_of_absent n h) (Or.inl h)
  · have h' := h
    push Not at h'
    obtain ⟨b, hb, hk⟩ := h'
    rw [record_take_of_present n hl hn hc hb hk, or_iff_right h]

end Record

end Rpcn.Lib
