/-
  File:      Rpcn/Score/LoadOrder.lean
  Subject:   THE ORDER OF A LOADED SCORE TABLE: the `ORDER BY` of `get_scores_from_table` against
             `DbScoreInfo::cmp`.

  The order of a board is written twice, in SQL for the query that loads it and in Rust for the
  binary search of `insert_score`. Both rank by score and then by time; among rows equal in both,
  the query lists the smaller user id first, the cache expects the larger one first.
-/
import Rpcn.Score.DatabaseSpec

namespace Rpcn

open Lib DbScoreInfo

/-- **Two users share a place**: one score, recorded at one time. -/
def DbScoreInfo.SharesPlace (a b : DbScoreInfo) : Prop :=
  a.score = b.score ∧ a.timestamp = b.timestamp ∧ a.userId ≠ b.userId

theorem DbScoreInfo.SharesPlace.symm {a b : DbScoreInfo} (h : a.SharesPlace b) :
    b.SharesPlace a := ⟨h.1.symm, h.2.1.symm, h.2.2.symm⟩

instance (a b : DbScoreInfo) : Decidable (a.SharesPlace b) :=
  inferInstanceAs (Decidable (a.score = b.score ∧ a.timestamp = b.timestamp ∧ a.userId ≠ b.userId))

namespace Database

theorem OrderBy.cmp_ne_gt_iff {sortMode : UInt32} {a b : DbScoreInfo}
    (h : OrderBy sortMode a b) : a.cmp b sortMode ≠ .gt ↔ ¬ a.SharesPlace b := by
  rw [Ne, cmp_eq_gt_iff, not_iff_not, before_iff]
  constructor
  · intro hba
    rcases orderBy_iff.mp h with hb | ⟨hs, ht⟩
    · rcases hba with hb' | ⟨hs', _⟩
      · exact absurd hb' hb.asymm
      · exact absurd (hs' ▸ hb) (not_better_self _ _)
    · rcases hba with hb' | ⟨_, ht'⟩
      · exact absurd (hs ▸ hb') (not_better_self _ _)
      · rcases ht with ht | ⟨ht, _⟩
        · rcases ht' with ht' | ⟨ht', _⟩
          · exact absurd (UInt64.lt_trans ht ht') (UInt64.lt_irrefl _)
          · exact absurd (ht' ▸ ht) (UInt64.lt_irrefl _)
        · rcases ht' with ht' | ⟨_, hu⟩
          · exact absurd (ht ▸ ht') (UInt64.lt_irrefl _)
          · exact ⟨hs, ht, Int.ne_of_lt hu⟩
  · intro hshare
    obtain ⟨hs, ht, hne⟩ := hshare
    -- the query has put the smaller user id first
    have hle : a.userId ≤ b.userId := by
      rcases orderBy_iff.mp h with hb | ⟨_, ht' | ⟨_, hu⟩⟩
      · exact absurd (hs ▸ hb) (not_better_self _ _)
      · exact absurd (ht ▸ ht') (UInt64.lt_irrefl _)
      · exact hu
    exact Or.inr ⟨hs.symm, Or.inr ⟨ht.symm, lt_of_le_of_ne hle hne⟩⟩

theorem getScoresFromTable_pairwise (tableInfo : DbBoardInfo) (scan : List DbScoreInfo) :
    (getScoresFromTable tableInfo scan).Pairwise (OrderBy tableInfo.sortMode) :=
  (List.pairwise_insertionSort (OrderBy tableInfo.sortMode) scan).take

def pairScan (later : UInt64) : List DbScoreInfo :=
  [⟨1, 0, 100, none, none, none, 5⟩, ⟨2, 0, 100, none, none, none, later⟩]

def pairDb (later : UInt64) : Database where
  accounts := ((∅ : HashMap UserId ScoreUserCache).insert 1 ⟨"ada", "Ada"⟩).insert 2 ⟨"bob", "Bob"⟩
  scoreTable := (∅ : HashMap TableDescription DbBoardInfo).insert ⟨[], 1⟩ .default
  score := ((∅ : HashMap ScoreKey ScoreColumns).insert ⟨⟨[], 1⟩, 1, 0⟩
    ⟨100, none, none, none, 5⟩).insert ⟨⟨[], 1⟩, 2, 0⟩ ⟨100, none, none, none, later⟩
  owned := by
    intro k c hk
    rw [HashMap.get?_insert, HashMap.get?_insert] at hk
    split at hk
    · next e => simp [e, HashMap.keys_insert]
    · split at hk
      · next e => simp [e, HashMap.keys_insert]
      · simp at hk

end Database

end Rpcn
