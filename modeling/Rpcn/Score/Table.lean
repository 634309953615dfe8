/-
  File:      Rpcn/Score/Table.lean
  Subject:   WELL-FORMED SCORE TABLES, and what `insert_score` does to one.
-/
import Rpcn.Lib.Ranking
import Rpcn.Score.Cache

namespace Rpcn

open Lib DbScoreInfo Call HashMap

/-! ## 1. The rank order -/

variable {sortMode : UInt32} {a b : DbScoreInfo}

namespace DbScoreInfo

/-- `a` ranks before `b`. -/
def Before (sortMode : UInt32) (a b : DbScoreInfo) : Prop := a.cmp b sortMode = .lt

instance (sortMode : UInt32) : DecidableRel (Before sortMode) :=
  fun a b => inferInstanceAs (Decidable (a.cmp b sortMode = .lt))

def Better (sortMode : UInt32) (x y : Int) : Prop := if sortMode = 0 then y < x else x < y

theorem cmp_better (h : Better sortMode a.score b.score) : a.cmp b sortMode = .lt := by
  unfold cmp
  by_cases hm : sortMode = 0
  · have hs : b.score < a.score := by simpa [Better, hm] using h
    simp [hm, Int.compare_eq_gt.mpr hs]
  · have hs : a.score < b.score := by simpa [Better, hm] using h
    simp [hm, Int.compare_eq_lt.mpr hs]

theorem cmp_worse (h : Better sortMode b.score a.score) : a.cmp b sortMode = .gt := by
  unfold cmp
  by_cases hm : sortMode = 0
  · have hs : a.score < b.score := by simpa [Better, hm] using h
    simp [hm, Int.compare_eq_lt.mpr hs]
  · have hs : b.score < a.score := by simpa [Better, hm] using h
    simp [hm, Int.compare_eq_gt.mpr hs]

theorem cmp_tied (h : a.score = b.score) :
    a.cmp b sortMode = (compare a.timestamp b.timestamp).then (compare b.userId a.userId) := by
  unfold cmp
  rw [h, Int.compare_eq_eq.mpr rfl]
  cases compare a.timestamp b.timestamp <;> rfl

theorem better_trichotomy (sortMode : UInt32) (x y : Int) :
    Better sortMode x y ∨ x = y ∨ Better sortMode y x := by
  unfold Better
  split <;> omega

theorem not_better_self (sortMode : UInt32) (x : Int) : ¬ Better sortMode x x := by
  unfold Better
  split <;> omega

theorem Better.asymm {x y : Int} (h : Better sortMode x y) : ¬ Better sortMode y x := by
  unfold Better at h ⊢
  split at h <;> simp_all <;> omega

theorem Better.trans {x y z : Int} (h : Better sortMode x y) (h' : Better sortMode y z) :
    Better sortMode x z := by
  unfold Better at *
  split at h <;> simp_all <;> omega

theorem before_iff :
    Before sortMode a b ↔ Better sortMode a.score b.score ∨ a.score = b.score ∧
      (a.timestamp < b.timestamp ∨ a.timestamp = b.timestamp ∧ b.userId < a.userId) := by
  unfold Before
  rcases better_trichotomy sortMode a.score b.score with h | h | h
  · simp [cmp_better h, h]
  · rw [cmp_tied h, Ordering.then_eq_lt, Std.compare_eq_lt, Std.compare_eq_lt,
      Std.compare_eq_iff_eq]
    simp [h, not_better_self]
  · have hne : a.score ≠ b.score := fun e => not_better_self sortMode _ (e ▸ h)
    simp [cmp_worse h, h.asymm, hne]

theorem cmp_eq_gt_iff : a.cmp b sortMode = .gt ↔ Before sortMode b a := by
  unfold Before
  rcases better_trichotomy sortMode a.score b.score with h | h | h
  · simp [cmp_better h, cmp_worse h]
  · rw [cmp_tied h, cmp_tied h.symm, Ordering.then_eq_gt, Ordering.then_eq_lt, Std.compare_eq_gt,
      Std.compare_eq_gt, Std.compare_eq_lt, Std.compare_eq_lt, Std.compare_eq_iff_eq,
      Std.compare_eq_iff_eq]
    simp only [eq_comm]
  · simp [cmp_better h, cmp_worse h]

theorem cmp_eq_eq_iff : a.cmp b sortMode = .eq ↔ ¬ Before sortMode a b ∧ ¬ Before sortMode b a := by
  have hgt : Before sortMode b a ↔ a.cmp b sortMode = .gt := cmp_eq_gt_iff.symm
  rw [hgt, Before]
  cases a.cmp b sortMode <;> simp

/-- **Ranking before is a strict order**, in both sort modes. -/
instance (sortMode : UInt32) : IsStrictOrder DbScoreInfo (Before sortMode) where
  irrefl a h := by
    rcases before_iff.mp h with hb | ⟨_, ht | ⟨_, hu⟩⟩
    · exact not_better_self _ _ hb
    · exact absurd ht (UInt64.lt_irrefl _)
    · exact absurd hu (Int.lt_irrefl _)
  trans a b c hab hbc := by
    rw [before_iff] at *
    refine lex_trans (Better sortMode) Better.trans hab hbc fun t t' => ?_
    exact lex_trans (· < ·) UInt64.lt_trans t t' fun u u' => Int.lt_trans u' u

/-- **Non-decreasing under `cmp`**: what the binary search of `insert_score` requires. -/
def NonDecreasing (sortMode : UInt32) (l : List DbScoreInfo) : Prop :=
  l.Pairwise fun a b => a.cmp b sortMode ≠ .gt

instance (sortMode : UInt32) (l : List DbScoreInfo) : Decidable (NonDecreasing sortMode l) :=
  inferInstanceAs (Decidable (l.Pairwise fun a b => a.cmp b sortMode ≠ .gt))

theorem nonDecreasing_iff {l : List DbScoreInfo} :
    NonDecreasing sortMode l ↔ l.Pairwise fun a b => ¬ Before sortMode b a := by
  unfold NonDecreasing
  simp only [Ne, cmp_eq_gt_iff]

end DbScoreInfo

/-! ## 2. Well-formed tables -/

variable {t : ScoreTableCache} {score : DbScoreInfo}

namespace ScoreTableCache

def Filed (t : ScoreTableCache) : Prop :=
  ∀ userId characterId i, t.posOf userId characterId = some i ↔
    ∃ e, t.sortedScores[i]? = some e ∧ e.key = (userId, characterId)

structure Wf (users : HashMap UserId ScoreUserCache) (t : ScoreTableCache) : Prop where
  sorted : t.sortedScores.Pairwise (DbScoreInfo.Before t.tableInfo.sortMode)
  limited : t.sortedScores.length ≤ t.tableInfo.rankLimit.toNat
  distinct : (t.sortedScores.map DbScoreInfo.key).Nodup
  filed : t.Filed
  known : ∀ e ∈ t.sortedScores, e.userId ∈ users.keys

structure Ordered (t : ScoreTableCache) : Prop where
  sorted : DbScoreInfo.NonDecreasing t.tableInfo.sortMode t.sortedScores
  limited : t.sortedScores.length ≤ t.tableInfo.rankLimit.toNat
  filed : t.Filed

theorem Wf.ordered {users : HashMap UserId ScoreUserCache} (h : t.Wf users) : t.Ordered :=
  ⟨nonDecreasing_iff.mpr (ordered_of_ranked h.sorted), h.limited, h.filed⟩

theorem wf_fromDb (users : HashMap UserId ScoreUserCache) (dbInfo : DbBoardInfo) :
    Wf users (fromDb dbInfo) where
  sorted := by simp [fromDb]
  limited := by simp [fromDb]
  distinct := by simp [fromDb]
  filed := by
    intro userId characterId i
    simp [fromDb, posOf]
  known := by simp [fromDb]

theorem Filed.pos (h : t.Filed) {i : Nat} {e : DbScoreInfo} (he : t.sortedScores[i]? = some e) :
    t.posOf e.userId e.characterId = some i :=
  (h _ _ _).mpr ⟨e, he, rfl⟩

theorem Filed.absent (h : t.Filed) (hp : t.posOf score.userId score.characterId = none) :
    ∀ e ∈ t.sortedScores, e.key ≠ score.key := by
  intro e he hk
  obtain ⟨i, hi⟩ := List.mem_iff_getElem?.mp he
  have := (h score.userId score.characterId i).mpr ⟨e, hi, hk⟩
  rw [hp] at this
  cases this

theorem Filed.distinct (h : t.Filed) : (t.sortedScores.map key).Nodup := by
  rw [List.nodup_iff_injective_getElem]
  intro i j hij
  have hi : i.1 < t.sortedScores.length := by simpa using i.2
  have hj : j.1 < t.sortedScores.length := by simpa using j.2
  have hkey : t.sortedScores[i.1].key = t.sortedScores[j.1].key := by simpa using hij
  have hposi := h.pos (List.getElem?_eq_getElem hi)
  have hposj := h.pos (List.getElem?_eq_getElem hj)
  obtain ⟨huser, hchar⟩ := Prod.mk.inj hkey
  rw [huser, hchar, hposj] at hposi
  exact Fin.ext (Option.some.inj hposi).symm

/-- **No tie**: the score ranks before or after every entry of another user or character. -/
def Untied (t : ScoreTableCache) (score : DbScoreInfo) : Prop :=
  ∀ e ∈ t.sortedScores, e.key ≠ score.key → score.cmp e t.tableInfo.sortMode ≠ .eq

theorem Untied.comparable (h : t.Untied score) :
    ∀ e ∈ others key score t.sortedScores,
      Before t.tableInfo.sortMode score e ∨
        Before t.tableInfo.sortMode e score := by
  intro e he
  obtain ⟨hmem, hkey⟩ := mem_others.mp he
  have hne := h e hmem hkey
  rw [Ne, cmp_eq_eq_iff, not_and_or, not_not, not_not] at hne
  exact hne

/-! ## 3. The steps of `insert_score` -/

theorem Filed.takeOut_run (h : t.Filed) (score : DbScoreInfo) :
    takeOut score t = (.ok (t.posOf score.userId score.characterId),
      { t with sortedScores := others key score t.sortedScores }) := by
  unfold takeOut
  rw [bind_ok (read_run t)]
  cases hp : t.posOf score.userId score.characterId with
  | none => simp [others_eq_self (h.absent hp)]
  | some pos =>
    obtain ⟨e, he, hk⟩ := (h _ _ _).mp hp
    have hlt : pos < t.sortedScores.length := (List.getElem?_eq_some_iff.mp he).1
    have hout : others key score t.sortedScores = t.sortedScores.eraseIdx pos :=
      others_eq_eraseIdx h.distinct he hk
    simp [bind_run, hlt, hout]

theorem enters_run (t : ScoreTableCache) (score : DbScoreInfo)
    (hl : 0 < t.tableInfo.rankLimit.toNat) :
    ∃ entering, enters score t = (.ok entering, t) ∧
      (t.sortedScores.length < t.tableInfo.rankLimit.toNat ∧ entering = true ∨
        t.tableInfo.rankLimit.toNat ≤ t.sortedScores.length ∧
          ∃ init last, t.sortedScores = init ++ [last] ∧
            (entering = true ↔ Before t.tableInfo.sortMode score last)) := by
  unfold enters
  rw [bind_ok (read_run t)]
  by_cases hlt : t.sortedScores.length < t.tableInfo.rankLimit.toNat
  · exact ⟨true, by simp [hlt], Or.inl ⟨hlt, rfl⟩⟩
  · have hne : t.sortedScores ≠ [] := by
      intro e
      simp [e] at hlt
      omega
    refine ⟨score.cmp (t.sortedScores.getLast hne) t.tableInfo.sortMode == .lt, ?_, Or.inr ?_⟩
    · simp [hlt, bind_run, List.getLast?_eq_some_getLast hne]
    · refine ⟨Nat.le_of_not_lt hlt, t.sortedScores.dropLast, t.sortedScores.getLast hne,
        (List.dropLast_append_getLast hne).symm, ?_⟩
      simp [Before]

theorem insertSorted_run (hs : NonDecreasing t.tableInfo.sortMode t.sortedScores)
    (hc : ∀ e ∈ t.sortedScores, Before t.tableInfo.sortMode score e ∨
      Before t.tableInfo.sortMode e score) :
    ∃ as bs, t.sortedScores = as ++ bs ∧
      t.sortedScores.orderedInsert (Before t.tableInfo.sortMode) score =
        as ++ score :: bs ∧
      (∀ e ∈ as, Before t.tableInfo.sortMode e score) ∧
      insertSorted score t = (.ok as.length, { t with
        sortedScores := as ++ score :: bs
        npidLookup := t.npidLookup.insert2 score.userId score.characterId as.length }) := by
  obtain ⟨as, bs, hl, hins, has, hbs⟩ := exists_split (nonDecreasing_iff.mp hs) hc
  refine ⟨as, bs, hl, hins, has, ?_⟩
  have hpos : t.insertPosOf score = some as.length := by
    unfold insertPosOf
    rw [hl, binarySearchBy_append has fun e he => cmp_eq_gt_iff.mpr (hbs e he)]
  unfold insertSorted
  rw [bind_ok (read_run t), hpos, bind_ok (unwrap_some _ _ _)]
  simp [bind_run, hl, insertIdx_append_length]

/-- **The re-filing loop's invariant**: the entries are filed and nothing else is, those below `k`
    at their position. -/
structure FiledUpTo (k : Nat) (t : ScoreTableCache) : Prop where
  listed : ∀ userId characterId, (t.posOf userId characterId).isSome = true ↔
    (userId, characterId) ∈ t.sortedScores.map DbScoreInfo.key
  below : ∀ i e, i < k → t.sortedScores[i]? = some e →
    t.posOf e.userId e.characterId = some i

theorem FiledUpTo.filed (h : FiledUpTo t.sortedScores.length t) : t.Filed := by
  have hpos : ∀ i e, t.sortedScores[i]? = some e → t.posOf e.userId e.characterId = some i :=
    fun i e he => h.below i e (List.getElem?_eq_some_iff.mp he).1 he
  intro userId characterId i
  refine ⟨fun hp => ?_, ?_⟩
  · obtain ⟨e, he, hk⟩ := List.mem_map.mp ((h.listed userId characterId).mp (by simp [hp]))
    obtain ⟨j, hj⟩ := List.mem_iff_getElem?.mp he
    obtain ⟨rfl, rfl⟩ := Prod.mk.inj hk
    have hji : j = i := Option.some.inj ((hpos j e hj).symm.trans hp)
    exact ⟨e, hji ▸ hj, rfl⟩
  · rintro ⟨e, he, hk⟩
    obtain ⟨rfl, rfl⟩ := Prod.mk.inj hk
    exact hpos i e he

theorem Filed.listed (h : t.Filed) (userId : UserId) (characterId : Int) :
    (t.posOf userId characterId).isSome = true ↔
      (userId, characterId) ∈ t.sortedScores.map key := by
  rw [Option.isSome_iff_exists, List.mem_map]
  simp only [h userId characterId]
  refine ⟨?_, ?_⟩
  · rintro ⟨i, e, he, hk⟩
    exact ⟨e, List.mem_of_getElem? he, hk⟩
  · rintro ⟨e, he, hk⟩
    obtain ⟨i, hi⟩ := List.mem_iff_getElem?.mp he
    exact ⟨i, e, hi, hk⟩

theorem Filed.filedUpTo_inserted (h : t.Filed) {as bs : List DbScoreInfo} (now : UInt64)
    (hl : others key score t.sortedScores = as ++ bs) :
    FiledUpTo (reorderStart (t.posOf score.userId score.characterId) as.length)
      { t with
        sortedScores := as ++ score :: bs
        npidLookup := t.npidLookup.insert2 score.userId score.characterId as.length
        lastInsert := now } := by
  refine ⟨?_, ?_⟩
  · intro userId characterId
    have hold := h.listed userId characterId
    unfold posOf at hold ⊢
    rw [get2?_insert2]
    by_cases hk : userId = score.userId ∧ characterId = score.characterId
    · simp [hk, key]
    · rw [if_neg hk, hold]
      have hne : (userId, characterId) ≠ score.key :=
        fun e => hk ⟨(Prod.mk.inj e).1, (Prod.mk.inj e).2⟩
      have hmem : (userId, characterId) ∈ t.sortedScores.map key ↔
          (userId, characterId) ∈ (as ++ bs).map key := by
        rw [← hl, List.mem_map, List.mem_map]
        refine exists_congr fun e => and_congr_left fun hke => ?_
        rw [mem_others, hke]
        simp [hne]
      rw [hmem]
      simp [hne]
  · intro i e hi he
    unfold posOf
    rw [get2?_insert2]
    by_cases hlt : i < as.length
    · -- an entry in front of both places has stayed where it was
      have hmove : (others key score t.sortedScores)[i]? = some e := by
        rw [hl, List.getElem?_append_left hlt]
        simpa [List.getElem?_append_left hlt] using he
      have hkey := (mem_others.mp (List.mem_of_getElem? hmove)).2
      have hold : t.sortedScores[i]? = some e := by
        cases hp : t.posOf score.userId score.characterId with
        | none => rwa [others_eq_self (h.absent hp)] at hmove
        | some pos =>
          obtain ⟨e', he', hk'⟩ := (h _ _ _).mp hp
          rw [hp, reorderStart] at hi
          rwa [others_eq_eraseIdx h.distinct he' hk', List.getElem?_eraseIdx_of_lt (by omega)]
            at hmove
      rw [if_neg fun hk => hkey (Prod.ext hk.1 hk.2)]
      exact h.pos hold
    · have hi' : i = as.length := by
        unfold reorderStart at hi
        split at hi <;> omega
      subst hi'
      have : e = score := by simpa using he.symm
      simp [this]

theorem reindexAt_run {k : Nat} (h : FiledUpTo k t)
    (hd : (t.sortedScores.map key).Nodup) (hk : k < t.sortedScores.length) :
    ∃ lookup, reindexAt k t = (.ok ⟨⟩, { t with npidLookup := lookup }) ∧
      FiledUpTo (k + 1) { t with npidLookup := lookup } := by
  have he : t.sortedScores[k]? = some t.sortedScores[k] := List.getElem?_eq_getElem hk
  generalize t.sortedScores[k] = e at he
  have hsome : (t.posOf e.userId e.characterId).isSome = true :=
    (h.listed _ _).mpr (List.mem_map_of_mem (List.mem_of_getElem? he))
  refine ⟨t.npidLookup.insert2 e.userId e.characterId k, ?_, ?_, ?_⟩
  · unfold reindexAt
    simp [bind_run, he, hsome]
  · intro userId characterId
    have hold := h.listed userId characterId
    unfold posOf at hold hsome ⊢
    rw [get2?_insert2]
    split
    next heq =>
      obtain ⟨rfl, rfl⟩ := heq
      simpa [hsome] using hold
    next => exact hold
  · intro i e' hi he'
    unfold posOf
    rw [get2?_insert2]
    by_cases hik : i = k
    · subst hik
      obtain rfl : e = e' := Option.some.inj (he.symm.trans he')
      simp
    · -- another entry has another key
      have hne : ¬ (e'.userId = e.userId ∧ e'.characterId = e.characterId) := by
        rintro ⟨h1, h2⟩
        have hkeys : (t.sortedScores.map key)[i]? =
            (t.sortedScores.map key)[k]? := by
          simp only [List.getElem?_map, he, he', Option.map_some, key, h1, h2]
        have hlt : i < (t.sortedScores.map key).length := by
          simpa using (List.getElem?_eq_some_iff.mp he').1
        exact hik ((List.getElem?_inj hlt hd).mp hkeys)
      rw [if_neg hne]
      exact h.below i e' (by omega) he'

theorem reindexFrom_run {start : Nat} (h : FiledUpTo start t)
    (hd : (t.sortedScores.map key).Nodup) (hs : start ≤ t.sortedScores.length) :
    ∃ lookup, reindexFrom start t = (.ok ⟨⟩, { t with npidLookup := lookup }) ∧
      Filed { t with npidLookup := lookup } := by
  unfold reindexFrom
  rw [bind_ok (read_run t)]
  generalize hn : t.sortedScores.length - start = n
  induction n generalizing t start with
  | zero =>
    have : start = t.sortedScores.length := by omega
    subst this
    exact ⟨t.npidLookup, rfl, h.filed⟩
  | succ n ih =>
    obtain ⟨lookup, hrun, hnext⟩ := reindexAt_run h hd (by omega)
    obtain ⟨lookup', hrun', hfiled⟩ := ih hnext hd (by show start + 1 ≤ t.sortedScores.length; omega)
      (by show t.sortedScores.length - (start + 1) = n; omega)
    refine ⟨lookup', ?_, hfiled⟩
    rw [List.range'_succ]
    exact (bind_ok hrun).trans hrun'

theorem evictLast_run (h : t.Filed) (hl : t.sortedScores.length ≤ t.tableInfo.rankLimit.toNat + 1) :
    ∃ lookup, evictLast t = (.ok ⟨⟩, { t with
        sortedScores := t.sortedScores.take t.tableInfo.rankLimit.toNat
        npidLookup := lookup }) ∧
      Filed { t with
        sortedScores := t.sortedScores.take t.tableInfo.rankLimit.toNat
        npidLookup := lookup } := by
  unfold evictLast
  rw [bind_ok (read_run t)]
  by_cases hgt : t.tableInfo.rankLimit.toNat < t.sortedScores.length
  · have hne : t.sortedScores ≠ [] := by
      intro e
      simp [e] at hgt
    have hcut : t.sortedScores.dropLast = t.sortedScores.take t.tableInfo.rankLimit.toNat := by
      rw [List.dropLast_eq_take]
      congr 1
      omega
    have hget : t.sortedScores.getLast? = some (t.sortedScores.getLast hne) :=
      List.getLast?_eq_some_getLast hne
    generalize t.sortedScores.getLast hne = last at hget
    have hlast : t.sortedScores[t.tableInfo.rankLimit.toNat]? = some last := by
      rw [← hget, List.getLast?_eq_getElem?]
      congr 1
      omega
    have hpos := h.pos hlast
    have hsome : (t.npidLookup.get? last.userId).isSome = true := isSome_of_get2? hpos
    refine ⟨t.npidLookup.remove2 last.userId last.characterId, ?_, ?_⟩
    · simp [hgt, bind_run, hget, hsome, hcut]
    · intro userId characterId i
      have hold := h userId characterId i
      unfold posOf at hold hpos ⊢
      simp only [get2?_remove2, List.getElem?_take]
      by_cases hlk : userId = last.userId ∧ characterId = last.characterId
      · -- the key evicted: its one position was the last one
        obtain ⟨rfl, rfl⟩ := hlk
        simp only [and_self, if_true, reduceCtorEq, false_iff]
        rintro ⟨e, he, hk⟩
        split at he
        next hi =>
          have := hold.mpr ⟨e, he, hk⟩
          rw [hpos] at this
          exact absurd (Option.some.inj this) (by omega)
        next => cases he
      · rw [if_neg hlk, hold]
        refine exists_congr fun e => and_congr_left fun hk => ?_
        by_cases hi : i < t.tableInfo.rankLimit.toNat
        · rw [if_pos hi]
        · rw [if_neg hi]
          refine iff_of_false (fun he => ?_) (by simp)
          have hlen := (List.getElem?_eq_some_iff.mp he).1
          have hi' : i = t.tableInfo.rankLimit.toNat := by omega
          rw [hi', hlast] at he
          obtain rfl := Option.some.inj he
          exact hlk ⟨(Prod.mk.inj hk).1.symm, (Prod.mk.inj hk).2.symm⟩
  · have hcut : t.sortedScores.take t.tableInfo.rankLimit.toNat = t.sortedScores :=
      List.take_of_length_le (by omega)
    refine ⟨t.npidLookup, ?_, ?_⟩
    · rw [if_neg hgt, hcut]
      rfl
    · rw [hcut]
      exact h

end ScoreTableCache

/-! ## 4. `insert_score` on the table held -/

variable {h : Held}

namespace ScoresCache

namespace Held

open ScoreTableCache

theorem onTable_ok {α : Type} {c : ScoreCall ScoreTableCache α} {a : α} {t' : ScoreTableCache}
    (hc : c h.table = (.ok a, t')) : onTable c h = (.ok a, { h with table := t' }) := by
  show ((c h.table).1, { h with table := (c h.table).2 }) = _
  rw [hc]

theorem addUser_run (userId : UserId) (npid onlineName : String) (h : Held) :
    ∃ users, addUser userId npid onlineName h = (.ok (), { h with users := users }) ∧
      (∀ u x, h.users.get? u = some x → users.get? u = some x) ∧ userId ∈ users.keys := by
  unfold addUser
  rw [bind_ok (read_run h)]
  cases hu : h.users.get? userId with
  | some x => exact ⟨h.users, rfl, fun _ _ hx => hx, mem_keys.mpr ⟨x, hu⟩⟩
  | none =>
    refine ⟨h.users.insert userId ⟨npid, onlineName⟩, rfl, ?_, ?_⟩
    · intro u x hx
      have hne : u ≠ userId := by
        rintro rfl
        rw [hu] at hx
        cases hx
      simpa [hne] using hx
    · simp [keys_insert]

/-- **What `insert_score` has done** to a table in order: the score is recorded in the ranking, and
    the rank returned is where it stands, or one past the limit. -/
structure Recorded (h : Held) (score : DbScoreInfo) (now : UInt64) (rank : UInt32) (h' : Held) :
    Prop where
  ordered : h'.table.Ordered
  scores : h'.table.sortedScores =
    record DbScoreInfo.key (DbScoreInfo.Before h.table.tableInfo.sortMode)
      h.table.tableInfo.rankLimit.toNat score h.table.sortedScores
  info : h'.table.tableInfo = h.table.tableInfo
  stamped : h'.table.lastInsert = now
  users : ∀ u x, h.users.get? u = some x → h'.users.get? u = some x
  known : ∀ e ∈ h'.table.sortedScores, e ∈ h.table.sortedScores ∨ e.userId ∈ h'.users.keys
  placed : (∃ i, i < h.table.tableInfo.rankLimit.toNat ∧ rank = (i + 1).toUInt32 ∧
      h'.table.sortedScores[i]? = some score ∧ score.userId ∈ h'.users.keys) ∨
    rank = h.table.tableInfo.rankLimit + 1 ∧ h'.table.sortedScores = h.table.sortedScores ∧
      h.table.posOf score.userId score.characterId = none

structure Inserted (h : Held) (score : DbScoreInfo) (now : UInt64) (rank : UInt32) (h' : Held) :
    Prop where
  wf : h'.table.Wf h'.users
  scores : h'.table.sortedScores =
    record DbScoreInfo.key (DbScoreInfo.Before h.table.tableInfo.sortMode)
      h.table.tableInfo.rankLimit.toNat score h.table.sortedScores
  info : h'.table.tableInfo = h.table.tableInfo
  stamped : h'.table.lastInsert = now
  users : ∀ u x, h.users.get? u = some x → h'.users.get? u = some x
  placed : (∃ i, rank = (i + 1).toUInt32 ∧ h'.table.sortedScores[i]? = some score) ∨
    rank = h.table.tableInfo.rankLimit + 1 ∧ h'.table.sortedScores = h.table.sortedScores ∧
      h.table.posOf score.userId score.characterId = none

theorem keys_mono {users users' : HashMap UserId ScoreUserCache}
    (h : ∀ u x, users.get? u = some x → users'.get? u = some x) {u : UserId} (hu : u ∈ users.keys) :
    u ∈ users'.keys := by
  obtain ⟨x, hx⟩ := mem_keys.mp hu
  exact mem_keys.mpr ⟨x, h u x hx⟩

theorem enterScore_run (hw : t.Ordered) (users : HashMap UserId ScoreUserCache)
    (hu : t.Untied score) (npid onlineName : String) (now : UInt64)
    (hroom : (others key score t.sortedScores).length < t.tableInfo.rankLimit.toNat ∨
      ∃ e ∈ others key score t.sortedScores,
        Before t.tableInfo.sortMode score e) :
    ∃ rank h', enterScore score npid onlineName (t.posOf score.userId score.characterId)
        ⟨{ t with sortedScores := others key score t.sortedScores, lastInsert := now },
          users⟩ = (.ok rank, h') ∧
      Recorded ⟨t, users⟩ score now rank h' := by
  have hsorted : NonDecreasing t.tableInfo.sortMode
      (others key score t.sortedScores) := hw.sorted.filter _
  obtain ⟨as, bs, hl, hins, has, hrun⟩ := insertSorted_run
    (t := { t with sortedScores := others key score t.sortedScores, lastInsert := now })
    hsorted hu.comparable
  simp only at hl hins has
  have hranked := ordered_orderedInsert (nonDecreasing_iff.mp hsorted) hu.comparable
  have hdist : (((others key score t.sortedScores).orderedInsert
      (Before t.tableInfo.sortMode) score).map key).Nodup :=
    nodup_orderedInsert_others hw.filed.distinct
  have hlen : (others key score t.sortedScores).length ≤
      t.tableInfo.rankLimit.toNat := (List.length_filter_le ..).trans hw.limited
  rw [hins] at hranked hdist
  rw [hl] at hlen hroom
  have hfits : as.length < t.tableInfo.rankLimit.toNat := by
    rcases hroom with hlt | ⟨e, he, hbefore⟩
    · exact Nat.lt_of_le_of_lt (by simp) hlt
    · -- an entry it ranks before is left behind its place
      have hbs : e ∈ bs := by
        refine (List.mem_append.mp he).resolve_left fun h => ?_
        exact Std.Irrefl.irrefl e (IsTrans.trans _ _ _ (has e h) hbefore)
      have := List.length_pos_of_mem hbs
      simp at hlen
      omega
  obtain ⟨users', hadd, hmono, hknown⟩ := addUser_run score.userId npid onlineName
    ⟨{ t with
        sortedScores := as ++ score :: bs
        npidLookup := t.npidLookup.insert2 score.userId score.characterId as.length
        lastInsert := now }, users⟩
  obtain ⟨lookup, hre, hfiled⟩ := reindexFrom_run (hw.filed.filedUpTo_inserted now hl) hdist (by
    show reorderStart _ _ ≤ (as ++ score :: bs).length
    unfold reorderStart
    split <;> simp)
  obtain ⟨lookup', hev, hfiled'⟩ := evictLast_run hfiled (by
    show (as ++ score :: bs).length ≤ t.tableInfo.rankLimit.toNat + 1
    simp at hlen ⊢
    omega)
  refine ⟨(as.length + 1).toUInt32, ⟨{ t with
      sortedScores := (as ++ score :: bs).take t.tableInfo.rankLimit.toNat
      npidLookup := lookup'
      lastInsert := now }, users'⟩, ?_, ?_⟩
  · unfold enterScore
    rw [bind_ok (onTable_ok hrun), bind_ok hadd, bind_ok (onTable_ok hre),
      bind_ok (onTable_ok hev)]
    rfl
  have hscore : ((as ++ score :: bs).take t.tableInfo.rankLimit.toNat)[as.length]? =
      some score := by simp [hfits]
  refine ⟨⟨nonDecreasing_iff.mpr hranked.take, ?_, hfiled'⟩, ?_, rfl, rfl, hmono, ?_,
    Or.inl ⟨as.length, hfits, rfl, hscore, hknown⟩⟩
  · simp
  · unfold record
    rw [hins]
  · intro e he
    have hmem : e ∈ as ++ score :: bs := List.mem_of_mem_take he
    have hcases : e = score ∨ e ∈ others key score t.sortedScores := by
      rw [hl]
      simpa [or_left_comm] using hmem
    rcases hcases with rfl | hold
    · exact Or.inr hknown
    · exact Or.inl (mem_others.mp hold).1

theorem recorded_past_limit (hw : t.Ordered) (users : HashMap UserId ScoreUserCache)
    {last : DbScoreInfo} (hu : t.Untied score) {init : List DbScoreInfo} (now : UInt64)
    (hfull : t.tableInfo.rankLimit.toNat ≤
      (others key score t.sortedScores).length)
    (hlast : others key score t.sortedScores = init ++ [last])
    (hnot : ¬ Before t.tableInfo.sortMode score last) :
    Recorded ⟨t, users⟩ score now (t.tableInfo.rankLimit + 1)
      ⟨{ t with sortedScores := others key score t.sortedScores, lastInsert := now },
        users⟩ := by
  -- nothing has left the table, so its limit is its length
  have hsame : others key score t.sortedScores = t.sortedScores :=
    List.filter_sublist.eq_of_length_le (hw.limited.trans hfull)
  have habsent : t.posOf score.userId score.characterId = none := by
    cases hp : t.posOf score.userId score.characterId with
    | none => rfl
    | some pos =>
      obtain ⟨e, he, hk⟩ := (hw.filed _ _ _).mp hp
      have := length_others hw.filed.distinct (List.mem_of_getElem? he) hk
      rw [hsame] at this
      omega
  have hafter : Before t.tableInfo.sortMode last score :=
    (hu.comparable last (by rw [hlast]; simp)).resolve_left hnot
  have hrecord : record key (Before t.tableInfo.sortMode)
      t.tableInfo.rankLimit.toNat score t.sortedScores = t.sortedScores := by
    have hsorted := nonDecreasing_iff.mp hw.sorted
    rw [← hsame, hlast] at hsorted
    unfold record
    rw [hlast, orderedInsert_of_last_lt hsorted hafter, ← hlast, hsame]
    rw [hsame] at hfull
    rw [List.take_append_of_le_length hfull, List.take_of_length_le hw.limited]
  rw [hsame]
  exact ⟨⟨hw.sorted, hw.limited, hw.filed⟩, hrecord.symm, rfl, rfl, fun _ _ hx => hx,
    fun _ he => Or.inl he, Or.inr ⟨rfl, rfl, habsent⟩⟩

theorem insertScore_recorded (hw : h.table.Ordered) (hl : 0 < h.table.tableInfo.rankLimit.toNat)
    (hu : h.table.Untied score) (npid onlineName : String) (now : UInt64) :
    ∃ rank h', insertScore score npid onlineName now h = (.ok rank, h') ∧
      Recorded h score now rank h' := by
  obtain ⟨t, users⟩ := h
  obtain ⟨entering, hen, hcases⟩ := enters_run
    { t with sortedScores := others key score t.sortedScores, lastInsert := now }
    score hl
  unfold insertScore
  rw [bind_ok (onTable_ok (hw.filed.takeOut_run score)),
    bind_ok (onTable_ok (modify_run _ _)), bind_ok (onTable_ok hen)]
  rcases hcases with ⟨hroom, rfl⟩ | ⟨hfull, init, last, hlast, hiff⟩
  · exact enterScore_run hw users hu npid onlineName now (Or.inl hroom)
  · by_cases hbefore : Before t.tableInfo.sortMode score last
    · obtain rfl := hiff.mpr hbefore
      refine enterScore_run hw users hu npid onlineName now (Or.inr ⟨last, ?_, hbefore⟩)
      rw [show others key score t.sortedScores = init ++ [last] from hlast]
      simp
    · have hno : entering = false := by
        cases entering with
        | false => rfl
        | true => exact absurd (hiff.mp rfl) hbefore
      subst hno
      exact ⟨_, _, rfl, recorded_past_limit hw users hu now hfull hlast hbefore⟩

theorem Recorded.inserted {h' : Held} {now : UInt64} {rank : UInt32}
    (hr : Recorded h score now rank h') (hw : h.table.Wf h.users) (hu : h.table.Untied score) :
    Inserted h score now rank h' := by
  have hsorted := ranked_orderedInsert (hw.sorted.filter _) hu.comparable
  refine ⟨⟨?_, hr.ordered.limited, hr.ordered.filed.distinct, hr.ordered.filed, ?_⟩, hr.scores,
    hr.info, hr.stamped, hr.users, ?_⟩
  · rw [hr.scores, hr.info]
    exact hsorted.take
  · intro e he
    rcases hr.known e he with hold | hnew
    · exact keys_mono hr.users (hw.known e hold)
    · exact hnew
  · rcases hr.placed with ⟨i, _, hrank, hscore, _⟩ | hpast
    · exact Or.inl ⟨i, hrank, hscore⟩
    · exact Or.inr hpast

theorem insertScore_run (hw : h.table.Wf h.users) (hl : 0 < h.table.tableInfo.rankLimit.toNat)
    (hu : h.table.Untied score) (npid onlineName : String) (now : UInt64) :
    ∃ rank h', insertScore score npid onlineName now h = (.ok rank, h') ∧
      Inserted h score now rank h' := by
  obtain ⟨rank, h', hrun, hr⟩ := insertScore_recorded hw.ordered hl hu npid onlineName now
  exact ⟨rank, h', hrun, hr.inserted hw hu⟩

end Held

end ScoresCache

end Rpcn
