/-
  File:      Rpcn/Score/DatabaseSpec.lean
  Subject:   WHAT THE SCORE STATEMENTS DO: the rows after a write, and the tables loaded from them.
-/
import Rpcn.Score.Database
import Rpcn.Score.WellFormed

namespace Rpcn

open Lib DbScoreInfo HashMap

variable (db : Database) (comId : ComId) {sortMode : UInt32} {a b : DbScoreInfo}
  {scan : List DbScoreInfo} {tableInfo : DbBoardInfo}

variable (desc desc' : TableDescription) (score : DbScoreInfo) (createMissing : Bool)

namespace Database

/-! ## 1. The order of the query -/

theorem orderBy_iff :
    OrderBy sortMode a b ↔ Better sortMode a.score b.score ∨ a.score = b.score ∧
      (a.timestamp < b.timestamp ∨ a.timestamp = b.timestamp ∧ a.userId ≤ b.userId) := Iff.rfl

instance (sortMode : UInt32) : Std.Total (OrderBy sortMode) where
  total a b := by
    rw [orderBy_iff, orderBy_iff]
    rcases DbScoreInfo.better_trichotomy sortMode a.score b.score with h | h | h
    · exact Or.inl (Or.inl h)
    · rcases Nat.lt_trichotomy a.timestamp.toNat b.timestamp.toNat with ht | ht | ht
      · exact Or.inl (Or.inr ⟨h, Or.inl ht⟩)
      · have ht' := UInt64.toNat_inj.mp ht
        rcases Int.le_total a.userId b.userId with hu | hu
        · exact Or.inl (Or.inr ⟨h, Or.inr ⟨ht', hu⟩⟩)
        · exact Or.inr (Or.inr ⟨h.symm, Or.inr ⟨ht'.symm, hu⟩⟩)
      · exact Or.inr (Or.inr ⟨h.symm, Or.inl ht⟩)
    · exact Or.inr (Or.inl h)

instance (sortMode : UInt32) : IsTrans DbScoreInfo (OrderBy sortMode) where
  trans a b c hab hbc := by
    rw [orderBy_iff] at *
    refine lex_trans (Better sortMode) Better.trans hab hbc fun t t' => ?_
    exact lex_trans (· < ·) UInt64.lt_trans t t' fun u u' => Int.le_trans u u'

theorem OrderBy.before (h : OrderBy sortMode a b) (hne : a.timestamp ≠ b.timestamp) :
    Before sortMode a b := by
  rw [before_iff]
  rcases orderBy_iff.mp h with hb | ⟨he, ht | ⟨ht, _⟩⟩
  · exact Or.inl hb
  · exact Or.inr ⟨he, Or.inl ht⟩
  · exact absurd ht hne

theorem before_or_before (sortMode : UInt32) (hne : a.timestamp ≠ b.timestamp) :
    Before sortMode a b ∨ Before sortMode b a := by
  rcases Std.Total.total (r := OrderBy sortMode) a b with h | h
  · exact Or.inl (h.before hne)
  · exact Or.inr (h.before hne.symm)

theorem ranked_insertionSort (hn : (scan.map timestamp).Nodup) :
    (scan.insertionSort (OrderBy sortMode)).Pairwise (Before sortMode) := by
  have hperm := List.perm_insertionSort (OrderBy sortMode) scan
  have hstamps : (scan.insertionSort (OrderBy sortMode)).Pairwise
      fun a b => a.timestamp ≠ b.timestamp :=
    List.pairwise_map.mp ((hperm.map timestamp).nodup_iff.mpr hn)
  exact ((List.pairwise_insertionSort (OrderBy sortMode) scan).and hstamps).imp
    fun h => h.1.before h.2

/-! ## 2. The rows of a board -/

theorem rows_insert (m : HashMap ScoreKey ScoreColumns) (k : ScoreKey) (c : ScoreColumns)
    (desc : TableDescription) :
    ((m.insert k c).entries.filter fun p => p.1.desc = desc).map (fun p => p.2.row p.1) =
      if k.desc = desc then
        c.row k ::ₘ ((m.entries.filter fun p => p.1.desc = desc).map fun p => p.2.row p.1).filter
          fun e => e.key ≠ (k.userId, k.characterId)
      else (m.entries.filter fun p => p.1.desc = desc).map fun p => p.2.row p.1 := by
  rw [entries_insert]
  by_cases hk : k.desc = desc
  · rw [if_pos hk, Multiset.filter_cons_of_pos (a := (k, c)) _ hk, Multiset.map_cons,
      Multiset.filter_map, Multiset.filter_filter, Multiset.filter_filter]
    congr 2
    refine Multiset.filter_congr fun p _ => ?_
    have hkey : p.1.desc = desc → (p.1 = k ↔ (p.2.row p.1).key = (k.userId, k.characterId)) := by
      intro hp
      obtain ⟨⟨d, u, ch⟩, c'⟩ := p
      obtain ⟨d', u', ch'⟩ := k
      obtain rfl : d = desc := hp
      obtain rfl : d' = d := hk
      simp [key, ScoreColumns.row]
    refine ⟨?_, ?_⟩
    · rintro ⟨hp, hne⟩
      exact ⟨fun e => hne ((hkey hp).mpr e), hp⟩
    · rintro ⟨hne, hp⟩
      exact ⟨hp, fun e => hne ((hkey hp).mp e)⟩
  · rw [if_neg hk, Multiset.filter_cons_of_neg (a := (k, c)) _ hk, Multiset.filter_filter]
    congr 1
    refine Multiset.filter_congr fun p _ => ?_
    refine ⟨fun h => h.1, fun h => ⟨h, ?_⟩⟩
    rintro rfl
    exact hk h

theorem rowsOf_writeScore (h : score.userId ∈ db.accounts.keys) :
    (db.writeScore desc score h).rowsOf desc' =
      if desc = desc' then score.withoutData ::ₘ (db.rowsOf desc').filter fun e => e.key ≠ score.key
      else db.rowsOf desc' :=
  rows_insert db.score (keyOf desc score) (columnsOf score) desc'

/-- **What is ranked**: the rows of a board, without their game data. -/
def standings (db : Database) (desc : TableDescription) : Multiset DbScoreInfo :=
  (db.rowsOf desc).map DbScoreInfo.withoutData

theorem standings_writeScore (h : score.userId ∈ db.accounts.keys) :
    (db.writeScore desc score h).standings desc' =
      if desc = desc' then
        score.withoutData ::ₘ (db.standings desc').filter fun e => e.key ≠ score.key
      else db.standings desc' := by
  unfold standings
  rw [rowsOf_writeScore]
  split
  · rw [Multiset.map_cons, Multiset.filter_map]
    rfl
  · rfl

theorem standings_writeData {k : ScoreKey} {c : ScoreColumns} (dataId : UInt64)
    (hc : db.score.get? k = some c) (h : k.userId ∈ db.accounts.keys) (desc : TableDescription) :
    (db.writeData k c dataId h).standings desc = db.standings desc := by
  have hold := rows_insert db.score k c desc
  have hnew := rows_insert db.score k { c with dataId := some dataId } desc
  rw [insert_self hc] at hold
  unfold standings rowsOf writeData
  rw [hnew]
  conv_rhs => rw [hold]
  split
  · rw [Multiset.map_cons, Multiset.map_cons]
    rfl
  · rfl

theorem nodup_keys : ((db.rowsOf desc).map key).Nodup := by
  unfold rowsOf
  rw [Multiset.map_map]
  refine Multiset.Nodup.map_on ?_ ((nodup_entries db.score).filter _)
  intro p hp q hq hkey
  rw [Multiset.mem_filter, mem_entries] at hp hq
  have hk : p.1 = q.1 := by
    obtain ⟨⟨d, u, ch⟩, c⟩ := p
    obtain ⟨⟨d', u', ch'⟩, c'⟩ := q
    obtain rfl : d = desc := hp.2
    obtain rfl : d' = d := hq.2
    simpa [key, ScoreColumns.row] using hkey
  have hv : p.2 = q.2 := Option.some.inj (hp.1.symm.trans (hk ▸ hq.1))
  exact Prod.ext hk hv

/-! ## 3. `record_score` -/

/-- The board as `get_board_infos` reports it; a board to be made has the defaults. -/
def boardInfo (db : Database) (desc : TableDescription) : DbBoardInfo :=
  (db.scoreTable.get? desc).getD .default

/-- The database once `get_board_infos` has run. -/
def withBoard (db : Database) (desc : TableDescription) (createMissing : Bool) : Database :=
  if db.scoreTable.get? desc = none ∧ createMissing = true then
    { db with scoreTable := db.scoreTable.insert desc .default }
  else db

@[simp] theorem withBoard_score : (db.withBoard desc createMissing).score = db.score := by
  unfold withBoard
  split <;> rfl

@[simp] theorem withBoard_accounts : (db.withBoard desc createMissing).accounts = db.accounts := by
  unfold withBoard
  split <;> rfl

@[simp] theorem boardInfo_withBoard :
    (db.withBoard desc createMissing).boardInfo desc' =
      db.boardInfo desc' := by
  unfold withBoard boardInfo
  split
  next h =>
    rw [get?_insert]
    split
    next e => rw [e, h.1]; rfl
    next => rfl
  next => rfl

@[simp] theorem boardInfo_writeScore (h : score.userId ∈ db.accounts.keys) :
    (db.writeScore desc score h).boardInfo desc' = db.boardInfo desc' := rfl

@[simp] theorem standings_withBoard :
    (db.withBoard desc createMissing).standings desc' = db.standings desc' := by
  unfold standings rowsOf
  rw [withBoard_score]

def HasBoard (db : Database) (desc : TableDescription) (createMissing : Bool) : Prop :=
  createMissing = true ∨ db.scoreTable.get? desc ≠ none

theorem getBoardInfos_cases :
    db.HasBoard desc createMissing ∧ getBoardInfos desc createMissing db =
        (.ok (db.boardInfo desc), db.withBoard desc createMissing) ∨
      ¬ db.HasBoard desc createMissing ∧
        getBoardInfos desc createMissing db = (.err .empty, db.withBoard desc createMissing) := by
  unfold getBoardInfos withBoard boardInfo HasBoard
  rw [Call.bind_ok (Call.read_run db)]
  cases hb : db.scoreTable.get? desc with
  | some infos => exact Or.inl ⟨by simp, by simp⟩
  | none =>
    cases createMissing with
    | false => exact Or.inr ⟨by simp, by simp⟩
    | true =>
      refine Or.inl ⟨by simp, ?_⟩
      simp [createScoreBoard, findBoardInfos, Call.bind_run]

/-- **The upsert takes the score**: it can be stored, and the row of its key, if there is one,
    gives way; a new row needs the account of its user. -/
def Accepts (db : Database) (desc : TableDescription) (score : DbScoreInfo) : Prop :=
  storable score.timestamp = true ∧
    match db.score.get? (keyOf desc score) with
    | none => score.userId ∈ db.accounts.keys
    | some old => replaces (db.boardInfo desc) score.score old.score = true

theorem upsertScore_new {db : Database} {desc : TableDescription} {score : DbScoreInfo}
    (hs : storable score.timestamp = true) (hn : db.score.get? (keyOf desc score) = none)
    (boardInfos : DbBoardInfo) : upsertScore desc boardInfos score db =
      if hu : score.userId ∈ db.accounts.keys then (.ok 1, db.writeScore desc score hu)
      else (.err .internal, db) := by
  unfold upsertScore
  rw [if_pos hs]
  split
  next => rfl
  next old h => rw [hn] at h; cases h

theorem upsertScore_old {db : Database} {desc : TableDescription} {score : DbScoreInfo}
    {old : ScoreColumns} (hs : storable score.timestamp = true)
    (ho : db.score.get? (keyOf desc score) = some old) (boardInfos : DbBoardInfo) :
    upsertScore desc boardInfos score db =
      if replaces boardInfos score.score old.score then
        (.ok 1, db.writeScore desc score (db.owned _ old ho))
      else (.ok 0, db) := by
  unfold upsertScore
  rw [if_pos hs]
  split
  next h => rw [ho] at h; cases h
  next old' h =>
    obtain rfl : old = old' := Option.some.inj (ho.symm.trans h)
    rfl

theorem upsertScore_cases :
    (db.Accepts desc score ∧ ∃ h, upsertScore desc (db.boardInfo desc) score db =
        (.ok 1, db.writeScore desc score h)) ∨
      (¬ db.Accepts desc score ∧ (upsertScore desc (db.boardInfo desc) score db = (.ok 0, db) ∨
        upsertScore desc (db.boardInfo desc) score db = (.err .internal, db))) := by
  unfold Accepts
  by_cases hs : storable score.timestamp = true
  · cases hold : db.score.get? (keyOf desc score) with
    | none =>
      rw [upsertScore_new hs hold]
      by_cases hu : score.userId ∈ db.accounts.keys
      · exact Or.inl ⟨⟨hs, hu⟩, hu, dif_pos hu⟩
      · exact Or.inr ⟨fun h => hu h.2, Or.inr (dif_neg hu)⟩
    | some old =>
      rw [upsertScore_old hs hold]
      by_cases hr : replaces (db.boardInfo desc) score.score old.score = true
      · exact Or.inl ⟨⟨hs, hr⟩, _, if_pos hr⟩
      · exact Or.inr ⟨fun h => hr h.2, Or.inl (if_neg hr)⟩
  · refine Or.inr ⟨fun h => hs h.1, Or.inr ?_⟩
    unfold upsertScore
    rw [if_neg hs]

/-- **`record_score` takes the score**: its board is there and the upsert accepts it. -/
def Takes (db : Database) (desc : TableDescription) (score : DbScoreInfo) (createMissing : Bool) :
    Prop :=
  db.HasBoard desc createMissing ∧ db.Accepts desc score

theorem recordScore_cases (boardId : UInt32) (score : DbScoreInfo) (createMissing : Bool) :
    (db.Takes (.new comId boardId) score createMissing ∧
      ∃ h, recordScore comId boardId score createMissing db =
        (.ok (db.boardInfo (.new comId boardId)),
          (db.withBoard (.new comId boardId) createMissing).writeScore (.new comId boardId) score
            h)) ∨
    (¬ db.Takes (.new comId boardId) score createMissing ∧
      ∃ e, recordScore comId boardId score createMissing db =
        (.err e, db.withBoard (.new comId boardId) createMissing)) := by
  generalize hdesc : TableDescription.new comId boardId = desc
  have hacc : (db.withBoard desc createMissing).Accepts desc score ↔ db.Accepts desc score := by
    unfold Accepts
    rw [withBoard_score, withBoard_accounts, boardInfo_withBoard]
  unfold recordScore Takes
  rw [hdesc]
  rcases getBoardInfos_cases db desc createMissing with ⟨hboard, hb⟩ | ⟨hboard, hb⟩
  · rw [Call.bind_ok hb]
    have hup := upsertScore_cases (db.withBoard desc createMissing) desc score
    rw [boardInfo_withBoard, hacc] at hup
    rcases hup with ⟨ha, h, hrun⟩ | ⟨hna, hrun | hrun⟩
    · exact Or.inl ⟨⟨hboard, ha⟩, h, by rw [Call.bind_ok hrun]; rfl⟩
    · exact Or.inr ⟨fun h => hna h.2, .scoreNotBest, by rw [Call.bind_ok hrun]; rfl⟩
    · exact Or.inr ⟨fun h => hna h.2, .internal, by rw [Call.bind_err hrun]⟩
  · exact Or.inr ⟨fun h => hboard h.1, .empty, by rw [Call.bind_err hb]⟩

theorem setScoreData_keeps (userId : UserId) (characterId : Int) (boardId : UInt32) (score : Int)
    (dataId : UInt64) :
    (setScoreData comId userId characterId boardId score dataId db).2 = db ∨
      ∃ k c h, db.score.get? k = some c ∧
        (setScoreData comId userId characterId boardId score dataId db).2 =
          db.writeData k c dataId h := by
  generalize hk : ScoreKey.mk (.new comId boardId) userId characterId = k
  have hupd : (∃ o, updateData k score dataId db = (o, db)) ∨
      ∃ c h, db.score.get? k = some c ∧
        updateData k score dataId db = (.ok 1, db.writeData k c dataId h) := by
    unfold updateData
    split
    · split
      next => exact Or.inl ⟨.ok 0, rfl⟩
      next c hc =>
        split
        · split
          · exact Or.inl ⟨.err .internal, rfl⟩
          · exact Or.inr ⟨c, db.owned k c hc, hc, rfl⟩
        · exact Or.inl ⟨.ok 0, rfl⟩
    · exact Or.inl ⟨.err .internal, rfl⟩
  unfold setScoreData
  rw [hk]
  rcases hupd with ⟨o, hrun⟩ | ⟨c, h, hc, hrun⟩
  · refine Or.inl ?_
    rw [Call.bind_run, hrun]
    cases o with
    | ok n => by_cases hn : n = 1 <;> simp [hn]
    | err e => rfl
    | panic p => rfl
  · exact Or.inr ⟨k, c, h, hc, by rw [Call.bind_ok hrun]; rfl⟩

theorem mem_of_mem_getScores {e : DbScoreInfo} (he : e ∈ getScoresFromTable tableInfo scan) :
    e ∈ scan :=
  (List.mem_insertionSort _).mp (List.mem_of_mem_take he)

end Database

/-! ## 4. Loaded tables -/

theorem fileScores_snoc (l : List DbScoreInfo) (x : DbScoreInfo) :
    fileScores (l ++ [x]) = (fileScores l).insert2 x.userId x.characterId l.length := by
  simp [fileScores, List.zipIdx_append, List.foldl_append]

theorem fileScores_get2? {l : List DbScoreInfo} (hn : (l.map key).Nodup)
    (userId : UserId) (characterId : Int) (i : Nat) :
    (fileScores l).get2? userId characterId = some i ↔
      ∃ e, l[i]? = some e ∧ e.key = (userId, characterId) := by
  induction l using List.reverseRecOn generalizing i with
  | nil => simp [fileScores]
  | append_singleton l x ih =>
    rw [List.map_append, List.map_singleton, List.nodup_append] at hn
    rw [fileScores_snoc, get2?_insert2]
    by_cases hk : userId = x.userId ∧ characterId = x.characterId
    · -- the key of the last entry is at the last position only
      obtain ⟨rfl, rfl⟩ := hk
      simp only [and_self, if_true, Option.some.injEq]
      refine ⟨?_, ?_⟩
      · rintro rfl
        exact ⟨x, by simp, rfl⟩
      · rintro ⟨e, he, hke⟩
        by_contra hne
        have hi : i < l.length := by
          have := (List.getElem?_eq_some_iff.mp he).1
          simp at this
          omega
        rw [List.getElem?_append_left hi] at he
        exact hn.2.2 e.key (List.mem_map_of_mem (List.mem_of_getElem? he)) x.key (by simp) hke
    · rw [if_neg hk, ih hn.1]
      refine exists_congr fun e => and_congr_left fun hke => ?_
      by_cases hi : i < l.length
      · rw [List.getElem?_append_left hi]
      · rw [List.getElem?_append_right (by omega), List.getElem?_eq_none (by omega)]
        refine iff_of_false (by simp) fun he => ?_
        have hex : e = x := by
          have := List.mem_of_getElem? he
          simpa using this
        subst hex
        exact hk ⟨(Prod.mk.inj hke).1.symm, (Prod.mk.inj hke).2.symm⟩

theorem wf_loadTable {users : HashMap UserId ScoreUserCache} (now : UInt64)
    (hstamps : (scan.map timestamp).Nodup) (hkeys : (scan.map key).Nodup)
    (hknown : ∀ e ∈ Database.getScoresFromTable tableInfo scan, e.userId ∈ users.keys) :
    (loadTable tableInfo scan now).Wf users := by
  have hdistinct : ((Database.getScoresFromTable tableInfo scan).map key).Nodup := by
    have hperm := (List.perm_insertionSort (Database.OrderBy tableInfo.sortMode) scan).map
      key
    exact (hperm.nodup_iff.mpr hkeys).sublist ((List.take_sublist _ _).map _)
  exact ⟨(Database.ranked_insertionSort hstamps).take, by simp [loadTable,
    Database.getScoresFromTable], hdistinct, fileScores_get2? hdistinct, hknown⟩

theorem loadTables_get? (scans : TableDescription → List DbScoreInfo) (now : UInt64)
    (boards : List TableDescription) (desc : TableDescription) :
    (loadTables db scans now boards).get? desc =
      if desc ∈ boards then
        (db.scoreTable.get? desc).map fun tableInfo => loadTable tableInfo (scans desc) now
      else none := by
  induction boards using List.reverseRecOn with
  | nil => simp [loadTables]
  | append_singleton boards d ih =>
    unfold loadTables at ih ⊢
    rw [List.foldl_append, List.foldl_cons, List.foldl_nil]
    cases hd : db.scoreTable.get? d with
    | some tableInfo =>
      simp only [get?_insert, ih, List.mem_append, List.mem_singleton]
      by_cases e : desc = d
      · simp [e, hd]
      · simp [e]
    | none =>
      simp only [ih, List.mem_append, List.mem_singleton]
      by_cases e : desc = d
      · simp [e, hd]
      · simp [e]

theorem mem_loadUsers {db : Database} {usersList : List UserId} {userId : UserId}
    (hu : userId ∈ usersList) (ha : userId ∈ db.accounts.keys) :
    userId ∈ (loadUsers db usersList).keys := by
  induction usersList using List.reverseRecOn with
  | nil => simp at hu
  | append_singleton usersList v ih =>
    unfold loadUsers at ih ⊢
    rw [List.foldl_append, List.foldl_cons, List.foldl_nil]
    by_cases e : userId = v
    · obtain ⟨names, hn⟩ := mem_keys.mp ha
      subst e
      simp [hn, keys_insert]
    · have hmem := ih (by simpa [e] using hu)
      cases db.accounts.get? v with
      | none => exact hmem
      | some names => simp [keys_insert, hmem]

end Rpcn
