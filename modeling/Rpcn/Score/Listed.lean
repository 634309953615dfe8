/-
  File:      Rpcn/Score/Listed.lean
  Subject:   WHO IS LISTED IN THE SCORE CACHE.

  A table of the cache knows users from two sides, the entries of its vector and the positions it
  files. Nothing but the insertion of a score brings a user in, and that insertion comes after the
  row of the database is written, which needs the account of the user.
-/
import Rpcn.Score.Mirror

namespace Rpcn

open Lib Np2Structs Call ScoresCache ScoreTableCache

/-! ## 1. Tables -/

variable {u : UserId}

variable {P Q : UserId → Prop} {t : ScoreTableCache}

namespace ScoreTableCache

structure Only (P : UserId → Prop) (t : ScoreTableCache) : Prop where
  listed : ∀ e ∈ t.sortedScores, P e.userId
  filed : ∀ {u : UserId} {c : Int} {pos : Nat}, t.posOf u c = some pos → P u

theorem Only.mono (h : t.Only P) (hPQ : ∀ u, P u → Q u) : t.Only Q :=
  ⟨fun e he => hPQ _ (h.listed e he), fun hp => hPQ _ (h.filed hp)⟩

theorem only_fromDb (P : UserId → Prop) (dbInfo : DbBoardInfo) : (fromDb dbInfo).Only P where
  listed e he := by cases he
  filed hp := by simp [posOf, fromDb] at hp

section Calls

variable {P : UserId → Prop} {t : ScoreTableCache} {score : DbScoreInfo}

theorem Only.file (h : t.Only P) (hu : P u) (c : Int) (pos : Nat) :
    { t with npidLookup := t.npidLookup.insert2 u c pos }.Only P where
  listed := h.listed
  filed hp := by
    unfold posOf at hp
    rw [HashMap.get2?_insert2] at hp
    split at hp
    · rename_i e
      exact e.1 ▸ hu
    · exact h.filed hp

theorem Only.relist (h : t.Only P) {scores : List DbScoreInfo} (hs : ∀ e ∈ scores, P e.userId) :
    { t with sortedScores := scores }.Only P :=
  ⟨hs, h.filed⟩

theorem takeOut_only (h : t.Only P) (score : DbScoreInfo) : (takeOut score t).2.Only P := by
  unfold takeOut
  rw [bind_ok (read_run t)]
  cases t.posOf score.userId score.characterId with
  | none => exact h
  | some pos =>
    by_cases hlt : pos < t.sortedScores.length
    · simp only [bind_run, hlt, decide_true, check_true, write_run, pure_run]
      exact h.relist fun e he => h.listed e (List.mem_of_mem_eraseIdx he)
    · simp only [bind_run, hlt, decide_false, check_false]
      exact h

theorem enters_only (h : t.Only P) (score : DbScoreInfo) : (enters score t).2.Only P := by
  unfold enters
  rw [bind_ok (read_run t)]
  split
  · exact h
  · cases t.sortedScores.getLast? <;> exact h

theorem insertSorted_only (h : t.Only P) (hscore : P score.userId) :
    (insertSorted score t).2.Only P := by
  unfold insertSorted
  rw [bind_ok (read_run t)]
  cases t.insertPosOf score with
  | none => exact h
  | some pos =>
    rw [bind_ok (unwrap_some pos _ t)]
    by_cases hle : pos ≤ t.sortedScores.length
    · simp only [bind_run, hle, decide_true, check_true, write_run, pure_run]
      refine (h.relist fun e he => ?_).file hscore _ _
      rcases List.eq_or_mem_of_mem_insertIdx he with rfl | he
      · exact hscore
      · exact h.listed e he
    · simp only [bind_run, hle, decide_false, check_false]
      exact h

theorem reindexAt_only (h : t.Only P) (i : Nat) : (reindexAt i t).2.Only P := by
  unfold reindexAt
  rw [bind_ok (read_run t)]
  cases hi : t.sortedScores[i]? with
  | none => exact h
  | some cur =>
    rw [bind_ok (unwrap_some cur _ t)]
    cases hpos : (t.posOf cur.userId cur.characterId).isSome with
    | false => exact h
    | true => exact h.file (h.listed cur (List.mem_of_getElem? hi)) _ _

theorem reindexFrom_only (h : t.Only P) (start : Nat) : (reindexFrom start t).2.Only P := by
  unfold reindexFrom
  rw [bind_ok (read_run t)]
  refine keeps_forM (R := fun t t' => t.Only P → t'.Only P) (fun _ => id) ?_ ?_ t h
  · exact fun _ _ _ hab hbc => hbc ∘ hab
  · exact fun i _ t h => reindexAt_only h i

theorem evictLast_only (h : t.Only P) : (evictLast t).2.Only P := by
  have hdrop : ∀ e ∈ t.sortedScores.dropLast, P e.userId :=
    fun e he => h.listed e (List.mem_of_mem_dropLast he)
  unfold evictLast
  rw [bind_ok (read_run t)]
  split
  · cases t.sortedScores.getLast? with
    | none => exact h
    | some last =>
      rw [bind_ok (unwrap_some last _ t), bind_ok (write_run t _)]
      cases (t.npidLookup.get? last.userId).isSome with
      | false => exact h.relist hdrop
      | true =>
        refine ⟨hdrop, fun hp => ?_⟩
        replace hp := show (t.npidLookup.remove2 last.userId last.characterId).get2? _ _ =
          some _ from hp
        rw [HashMap.get2?_remove2] at hp
        split at hp
        · cases hp
        · exact h.filed hp
  · exact h

theorem setData_only (h : t.Only P) (userId : UserId) (characterId : Int) (dataId : UInt64) :
    (setData userId characterId dataId t).2.Only P := by
  unfold setData
  rw [bind_ok (read_run t)]
  cases t.posOf userId characterId with
  | none => exact h
  | some rank =>
    cases hr : t.sortedScores[rank]? with
    | none =>
      simp only [bind_run, hr, unwrap_none]
      exact h
    | some theScore =>
      simp only [bind_run, hr, unwrap_some, write_run]
      refine h.relist fun e he => ?_
      rcases List.mem_or_eq_of_mem_set he with he | rfl
      · exact h.listed e he
      · exact h.listed theScore (List.mem_of_getElem? hr)

end Calls

theorem Only.lineAt (h : t.Only P) {users : HashMap UserId ScoreUserCache} {i : Nat}
    {line : ScoresCache.ResultLine} (hl : ScoresCache.lineAt t users i = .ok line) :
    ∃ e ∈ t.sortedScores, P e.userId ∧
      ∃ names, users.get? e.userId = some names ∧ line = ScoresCache.lineFor names e i := by
  unfold ScoresCache.lineAt at hl
  split at hl
  · cases hl
  · rename_i e he
    split at hl
    · cases hl
    · rename_i names hn
      cases hl
      exact ⟨e, List.mem_of_getElem? he, h.listed e (List.mem_of_getElem? he), names, hn, rfl⟩

theorem Only.lineOf (h : t.Only P) (hu : ¬ P u) (users : HashMap UserId ScoreUserCache) (c : Int) :
    ScoresCache.lineOf t users (u, c) = .ok ⟨.default, "", []⟩ := by
  unfold ScoresCache.lineOf
  cases hp : t.posOf u c with
  | none => rfl
  | some pos => exact absurd (h.filed hp) hu

end ScoreTableCache

/-! ## 2. The cache -/

variable {α : Type}

namespace ScoresCache

variable {P : UserId → Prop}

def Held.Keeping (P : UserId → Prop) (h h' : Held) : Prop := h.table.Only P → h'.table.Only P

theorem Held.keeping_refl (h : Held) : Held.Keeping P h h := id

theorem Held.keeping_trans (a b c : Held) (hab : Held.Keeping P a b) (hbc : Held.Keeping P b c) :
    Held.Keeping P a c := hbc ∘ hab

theorem Held.keeps_onTable {c : ScoreCall ScoreTableCache α} (hc : ∀ t, t.Only P → (c t).2.Only P) :
    Keeps (Held.Keeping P) (Held.onTable c) :=
  fun h hh => hc h.table hh

theorem Held.keeps_addUser (userId : UserId) (npid onlineName : String) :
    Keeps (Held.Keeping P) (Held.addUser userId npid onlineName) := by
  refine keeps_read_bind fun h => ?_
  cases h.users.get? userId <;> exact Held.keeping_refl h

variable {score : DbScoreInfo}

theorem Held.keeps_enterScore (hscore : P score.userId) (npid onlineName : String)
    (initialPos : Option Nat) :
    Keeps (Held.Keeping P) (Held.enterScore score npid onlineName initialPos) := by
  refine keeps_bind Held.keeping_trans
    (Held.keeps_onTable fun t h => insertSorted_only h hscore) fun pos => ?_
  refine keeps_bind Held.keeping_trans (Held.keeps_addUser _ _ _) fun _ => ?_
  refine keeps_bind Held.keeping_trans
    (Held.keeps_onTable fun t h => reindexFrom_only h _) fun _ => ?_
  exact keeps_bind Held.keeping_trans
    (Held.keeps_onTable fun t h => evictLast_only h)
    fun _ => keeps_pure Held.keeping_refl _

theorem Held.keeps_insertScore (hscore : P score.userId) (npid onlineName : String) (now : UInt64) :
    Keeps (Held.Keeping P) (Held.insertScore score npid onlineName now) := by
  refine keeps_bind Held.keeping_trans
    (Held.keeps_onTable fun t h => takeOut_only h score) fun initialPos => ?_
  refine keeps_bind Held.keeping_trans
    (Held.keeps_onTable fun t h => ⟨h.listed, h.filed⟩) fun _ => ?_
  refine keeps_bind Held.keeping_trans
    (Held.keeps_onTable fun t h => enters_only h score) fun entering => ?_
  refine keeps_ite (Held.keeps_enterScore hscore npid onlineName initialPos) ?_
  exact keeps_bind Held.keeping_trans (keeps_read Held.keeping_refl)
    fun _ => keeps_pure Held.keeping_refl _

/-- **The users of every table are in `P`.** -/
def Only (P : UserId → Prop) (s : ScoresCache) : Prop := HashMap.All (ScoreTableCache.Only P) s.tables

variable {s : ScoresCache}

theorem Only.mono (h : s.Only P) (hPQ : ∀ u, P u → Q u) :
    s.Only Q := fun desc t ht => (h desc t ht).mono hPQ

theorem Only.tableFor (h : s.Only P) (desc : TableDescription) (dbInfo : DbBoardInfo) :
    (s.tableFor desc dbInfo).Only P := by
  unfold ScoresCache.tableFor
  cases ht : s.tables.get? desc with
  | none => exact only_fromDb P dbInfo
  | some t => exact h desc t ht

theorem insertScore_only (h : s.Only P) (hscore : P score.userId) (dbInfo : DbBoardInfo)
    (comId : ComId) (boardId : UInt32) (npid onlineName : String) (now : UInt64) :
    (insertScore dbInfo comId boardId score npid onlineName now s).2.Only P := by
  unfold insertScore
  rw [bind_ok (getTableOrInsert_run s _ _), bind_ok (read_run _)]
  have htable := h.tableFor (.new comId boardId) dbInfo
  exact (h.insert _ htable).insert _ (Held.keeps_insertScore hscore npid onlineName now _ htable)

theorem reading_only (h : s.Only P) (desc : TableDescription) (dbInfo : DbBoardInfo)
    {f : ScoreTableCache → ScoreCall ScoresCache α} (hf : ∀ t, Keeps Eq (f t)) :
    ((getTableOrInsert desc dbInfo >>= f) s).2.Only P := by
  rw [bind_ok (getTableOrInsert_run s _ _), ← hf]
  exact h.insert _ (h.tableFor desc dbInfo)

theorem setGameData_only (h : s.Only P) (comId : ComId) (userId : UserId) (characterId : Int)
    (boardId : UInt32) (dataId : UInt64) :
    (setGameData comId userId characterId boardId dataId s).2.Only P := by
  unfold setGameData
  rw [bind_ok (getTableOrInsert_run s _ _)]
  have htable := h.tableFor (.new comId boardId) .default
  exact (h.insert _ htable).insert _ (setData_only htable _ _ _)

theorem keeps_entryOf (t : ScoreTableCache) (userId : UserId) (characterId : Int) :
    Keeps Eq (entryOf t userId characterId) := by
  unfold entryOf
  cases t.posOf userId characterId with
  | none => exact fun _ => rfl
  | some rank => exact keeps_unwrap (fun _ => rfl) _ _

end ScoresCache

theorem ScoreOp.call_only {s : ScoresCache} (h : s.Only P) {op : ScoreOp}
    (hop : op.isInsert = false) : (op.call s).2.Only P := by
  have hrefl : ∀ s : ScoresCache, s = s := fun _ => rfl
  have htrans : ∀ a b c : ScoresCache, a = b → b = c → a = c := fun _ _ _ => Eq.trans
  cases op with
  | insertScore => cases hop
  | setGameData comId userId characterId boardId dataId =>
    rw [ScoreOp.call, mapOk_state]
    exact setGameData_only h comId userId characterId boardId dataId
  | getScoreRange comId boardId startRank numRanks withComment withGameinfo =>
    rw [ScoreOp.call, mapOk_state]
    refine reading_only h _ _ fun t => keeps_read_bind fun s => ?_
    exact keeps_bind htrans (keeps_ofPanic hrefl _)
      (fun _ => keeps_pure hrefl _) s
  | getScoreIds comId boardId npids withComment withGameinfo =>
    rw [ScoreOp.call, mapOk_state]
    refine reading_only h _ _ fun t => keeps_read_bind fun s => ?_
    exact keeps_bind htrans (keeps_ofPanic hrefl _)
      (fun _ => keeps_pure hrefl _) s
  | containsScoreWithNoData comId userId characterId boardId score =>
    rw [ScoreOp.call, mapOk_state]
    refine reading_only h _ _ fun t => ?_
    refine keeps_bind htrans (keeps_entryOf t userId characterId) fun e => ?_
    exact keeps_ite (keeps_fail hrefl _)
      (keeps_ite (keeps_fail hrefl _) (keeps_pure hrefl _))
  | getGameDataId comId userId characterId boardId =>
    rw [ScoreOp.call, mapOk_state]
    refine reading_only h _ _ fun t => ?_
    refine keeps_bind htrans (keeps_entryOf t userId characterId) fun e => ?_
    cases e.dataId with
    | none => exact keeps_fail hrefl _
    | some dataId => exact keeps_pure hrefl _

/-! ## 3. The server -/

theorem fileScores_filed {l : List DbScoreInfo} (h : ∀ e ∈ l, P e.userId) {c : Int} {pos : Nat}
    (hp : (fileScores l).get2? u c = some pos) : P u := by
  induction l using List.reverseRecOn with
  | nil => simp [fileScores] at hp
  | append_singleton l x ih =>
    rw [fileScores_snoc, HashMap.get2?_insert2] at hp
    split at hp
    · rename_i e
      exact e.1 ▸ h x (by simp)
    · exact ih (fun e he => h e (by simp [he])) hp

theorem only_loaded {db : Database} {boards : List TableDescription}
    {scans : TableDescription → List DbScoreInfo}
    (hscans : ∀ desc, (scans desc : Multiset DbScoreInfo) = db.rowsOf desc) (now : UInt64) :
    (initializeScore db boards scans now).Only (· ∈ db.accounts.keys) := by
  intro desc t ht
  replace ht := (loadTables_get? db scans now boards desc).symm.trans ht
  split at ht
  · obtain ⟨tableInfo, _, rfl⟩ := Option.map_eq_some_iff.mp ht
    have hlisted : ∀ e ∈ Database.getScoresFromTable tableInfo (scans desc),
        e.userId ∈ db.accounts.keys := by
      intro e he
      have hrow : e ∈ db.rowsOf desc := by
        rw [← hscans desc]
        exact Database.mem_of_mem_getScores he
      obtain ⟨p, hp, rfl⟩ := Multiset.mem_map.mp hrow
      exact db.owned p.1 p.2 (HashMap.mem_entries.mp (Multiset.mem_filter.mp hp).1)
    exact ⟨hlisted, fun hp => fileScores_filed hlisted hp⟩
  · cases ht

namespace ServerOp

variable {s : ScoreServer}

/-- A command that does not insert into the cache behind the database's back. -/
def isInsert : ServerOp → Bool
  | .cache op => op.isInsert
  | _ => false

theorem call_only {op : ServerOp} (hop : op.isInsert = false)
    (h : s.scoreCache.Only (· ∈ s.db.accounts.keys)) :
    (op.call s).2.db.accounts = s.db.accounts ∧
      (op.call s).2.scoreCache.Only (· ∈ s.db.accounts.keys) := by
  cases op with
  | recordScore cinfo comId req createMissing now insertTime =>
    rw [ServerOp.call, mapOk_state]
    unfold ScoreServer.recordScore
    rcases s.db.recordScore_cases comId req.boardId (ScoreServer.scoreInfos cinfo req now)
      createMissing with ⟨_, hu, hdb⟩ | ⟨_, e, hdb⟩
    · have haccounts := s.db.withBoard_accounts (.new comId req.boardId) createMissing
      have hscore : (ScoreServer.scoreInfos cinfo req now).userId ∈ s.db.accounts.keys :=
        haccounts ▸ hu
      rw [bind_ok (ScoreServer.onDb_ok hdb)]
      have hcache := insertScore_only h hscore
        (s.db.boardInfo (.new comId req.boardId)) comId req.boardId cinfo.npid cinfo.onlineName
        insertTime
      simp only [ScoreServer.onCache, bind_run]
      generalize insertScore _ _ _ _ _ _ _ s.scoreCache = r at hcache ⊢
      obtain ⟨o, cache⟩ := r
      cases o <;> exact ⟨haccounts, hcache⟩
    · rw [bind_ok (ScoreServer.onDb_err hdb)]
      cases e <;> exact ⟨s.db.withBoard_accounts .., h⟩
  | getBoardInfos comId boardId createMissing =>
    rw [ServerOp.call, mapOk_state, ScoreServer.getBoardInfos_state]
    exact ⟨Database.withBoard_accounts .., h⟩
  | cache op =>
    rw [ServerOp.call, mapOk_state]
    exact ⟨rfl, ScoreOp.call_only h hop⟩
  | setScoreData comId userId characterId boardId score dataId =>
    rw [ServerOp.call, mapOk_state, ScoreServer.setScoreData_state]
    refine ⟨?_, h⟩
    rcases s.db.setScoreData_keeps comId userId characterId boardId score dataId with
      hsame | ⟨k, c, hu, hc, hdata⟩
    · rw [hsame]
    · rw [hdata]
      rfl

end ServerOp

end Rpcn
