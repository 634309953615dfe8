/-
  File:      Rpcn/Score/WellFormed.lean
  Subject:   THE SCORE CACHE STAYS WELL FORMED, call by call and over every run.
-/
import Rpcn.Lib.Run
import Rpcn.Score.Table

namespace Rpcn

open Lib DbScoreInfo Call ScoresCache HashMap

/-! ## 1. What the game data does not touch -/

/-- A score without the id of its game data: the part the ranking reads, and more. -/
def DbScoreInfo.withoutData (e : DbScoreInfo) : DbScoreInfo := { e with dataId := none }

namespace ScoreTableCache

variable {users : HashMap UserId ScoreUserCache} {t : ScoreTableCache}

theorem Wf.congr (h : t.Wf users) {scores : List DbScoreInfo}
    (hs : scores.map withoutData = t.sortedScores.map withoutData) :
    Wf users { t with sortedScores := scores } := by
  have hkeys : scores.map key = t.sortedScores.map key := by
    have := congrArg (List.map key) hs
    rw [List.map_map, List.map_map] at this
    exact this
  have hlen : scores.length = t.sortedScores.length := by simpa using congrArg List.length hs
  refine ⟨?_, ?_, ?_, ?_, ?_⟩
  · have hsorted : (t.sortedScores.map withoutData).Pairwise
        (Before t.tableInfo.sortMode) := List.pairwise_map.mpr h.sorted
    rw [← hs] at hsorted
    have := List.pairwise_map.mp hsorted
    exact this
  · simpa [hlen] using h.limited
  · simpa [hkeys] using h.distinct
  · intro userId characterId i
    have hat : (∃ e, scores[i]? = some e ∧ e.key = (userId, characterId)) ↔
        ∃ e, t.sortedScores[i]? = some e ∧ e.key = (userId, characterId) := by
      have := congrArg (fun l => l[i]? = some (userId, characterId)) hkeys
      simpa [List.getElem?_map] using this
    rw [hat]
    exact h.filed userId characterId i
  · intro e he
    have hmem : e.key ∈ t.sortedScores.map key := hkeys ▸ List.mem_map_of_mem he
    obtain ⟨e', he', hk⟩ := List.mem_map.mp hmem
    have hu : e'.userId = e.userId := (Prod.mk.inj hk).1
    exact hu ▸ h.known e' he'

theorem Wf.mono {users' : HashMap UserId ScoreUserCache} (h : t.Wf users)
    (hm : ∀ u x, users.get? u = some x → users'.get? u = some x) : t.Wf users' :=
  ⟨h.sorted, h.limited, h.distinct, h.filed,
    fun e he => Held.keys_mono hm (h.known e he)⟩

theorem Wf.setData_run (h : t.Wf users) (userId : UserId) (characterId : Int) (dataId : UInt64) :
    ∃ o scores, setData userId characterId dataId t =
        (o, { t with sortedScores := scores }) ∧ o.isPanic = false ∧
      scores.map withoutData = t.sortedScores.map withoutData := by
  unfold setData
  rw [bind_ok (read_run t)]
  cases hp : t.posOf userId characterId with
  | none => exact ⟨_, t.sortedScores, rfl, rfl, rfl⟩
  | some rank =>
    obtain ⟨e, he, _⟩ := (h.filed _ _ _).mp hp
    refine ⟨.ok (), t.sortedScores.set rank { e with dataId := some dataId }, ?_, rfl, ?_⟩
    · simp [bind_run, he]
    · rw [List.map_set]
      refine List.ext_getElem? fun i => ?_
      rw [List.getElem?_set]
      split
      next hi =>
        subst hi
        obtain ⟨hlt, rfl⟩ := List.getElem?_eq_some_iff.mp he
        simp [hlt, withoutData]
      next => rfl

end ScoreTableCache

/-! ## 2. The calls on the cache -/

variable {score : DbScoreInfo} {now : UInt64} {h' : Held}

variable {dbInfo : DbBoardInfo}

namespace ScoresCache

def tableFor (s : ScoresCache) (desc : TableDescription) (dbInfo : DbBoardInfo) : ScoreTableCache :=
  (s.tables.get? desc).getD (.fromDb dbInfo)

@[simp] theorem putTable_users (s : ScoresCache) (desc : TableDescription) (t : ScoreTableCache) :
    (s.putTable desc t).users = s.users := rfl

theorem getTableOrInsert_run (s : ScoresCache) (desc : TableDescription) (dbInfo : DbBoardInfo) :
    getTableOrInsert desc dbInfo s =
      (.ok (s.tableFor desc dbInfo), s.putTable desc (s.tableFor desc dbInfo)) := by
  unfold getTableOrInsert tableFor putTable
  rw [bind_ok (read_run s)]
  cases h : s.tables.get? desc with
  | none => simp [bind_run]
  | some t => simp [insert_self h]

/-- The cache after `insert_score` has worked on the table of `desc`. -/
def afterInsert (s : ScoresCache) (desc : TableDescription) (h : Held) : ScoresCache where
  tables := s.tables.insert desc h.table
  users := h.users

variable {s : ScoresCache} {comId : ComId} {boardId : UInt32}

theorem insertScore_of_held {npid onlineName : String} {o : Outcome ErrorType ScorePanic UInt32}
    (hrun : Held.insertScore score npid onlineName now
      ⟨s.tableFor (.new comId boardId) dbInfo, s.users⟩ = (o, h')) :
    insertScore dbInfo comId boardId score npid onlineName now s =
      (o, s.afterInsert (.new comId boardId) h') := by
  unfold insertScore
  rw [bind_ok (getTableOrInsert_run s _ _), bind_ok (read_run _)]
  simp only [within_run, putTable, hrun, insert_insert, afterInsert]

theorem insertScore_run (hw : (s.tableFor (.new comId boardId) dbInfo).Wf s.users)
    (hl : 0 < (s.tableFor (.new comId boardId) dbInfo).tableInfo.rankLimit.toNat)
    (hu : (s.tableFor (.new comId boardId) dbInfo).Untied score) (npid onlineName : String)
    (now : UInt64) :
    ∃ rank h', insertScore dbInfo comId boardId score npid onlineName now s =
        (.ok rank, s.afterInsert (.new comId boardId) h') ∧
      Held.Inserted ⟨s.tableFor (.new comId boardId) dbInfo, s.users⟩ score now rank h' := by
  obtain ⟨rank, h', hrun, hins⟩ := Held.insertScore_run
    (h := ⟨s.tableFor (.new comId boardId) dbInfo, s.users⟩) hw hl hu npid onlineName now
  exact ⟨rank, h', insertScore_of_held hrun, hins⟩

theorem setGameData_run (hw : (s.tableFor (.new comId boardId) .default).Wf s.users)
    (userId : UserId) (characterId : Int) (dataId : UInt64) :
    ∃ o scores, setGameData comId userId characterId boardId dataId s =
        (o, s.putTable (.new comId boardId)
          { s.tableFor (.new comId boardId) .default with sortedScores := scores }) ∧
      o.isPanic = false ∧
      scores.map withoutData =
        (s.tableFor (.new comId boardId) .default).sortedScores.map withoutData := by
  obtain ⟨o, scores, hrun, ho, hsame⟩ := hw.setData_run userId characterId dataId
  refine ⟨o, scores, ?_, ho, hsame⟩
  unfold setGameData
  rw [bind_ok (getTableOrInsert_run s _ _)]
  simp only [within_run, hrun, putTable, insert_insert]

/-- **Every table is well formed.** -/
def Wf (s : ScoresCache) : Prop := HashMap.All (ScoreTableCache.Wf s.users) s.tables

theorem wf_new : new.Wf := All.empty _

theorem Wf.tableFor (h : s.Wf) (desc : TableDescription) (dbInfo : DbBoardInfo) :
    (s.tableFor desc dbInfo).Wf s.users := by
  unfold ScoresCache.tableFor
  cases ht : s.tables.get? desc with
  | none => exact ScoreTableCache.wf_fromDb s.users dbInfo
  | some t => exact h desc t ht

variable {t : ScoreTableCache}

theorem Wf.putTable (h : s.Wf) (desc : TableDescription) (ht : t.Wf s.users) :
    (s.putTable desc t).Wf := All.insert h desc ht

theorem Wf.afterInsert (h : s.Wf) (desc : TableDescription) {rank : UInt32}
    (hi : Held.Inserted ⟨t, s.users⟩ score now rank h') : (s.afterInsert desc h').Wf := by
  have hall : All (ScoreTableCache.Wf h'.users) s.tables :=
    fun k t ht => (h k t ht).mono hi.users
  exact hall.insert desc hi.wf

end ScoresCache

/-! ## 3. Runs -/

inductive ScoreOp where
  | insertScore (dbInfo : DbBoardInfo) (comId : ComId) (boardId : UInt32) (score : DbScoreInfo)
      (npid onlineName : String) (now : UInt64)
  | setGameData (comId : ComId) (userId : UserId) (characterId : Int) (boardId : UInt32)
      (dataId : UInt64)
  | getScoreRange (comId : ComId) (boardId startRank numRanks : UInt32)
      (withComment withGameinfo : Bool)
  | getScoreIds (comId : ComId) (boardId : UInt32) (npids : List (UserId × Int))
      (withComment withGameinfo : Bool)
  | containsScoreWithNoData (comId : ComId) (userId : UserId) (characterId : Int)
      (boardId : UInt32) (score : Int)
  | getGameDataId (comId : ComId) (userId : UserId) (characterId : Int) (boardId : UInt32)

inductive ScoreReply where
  | rank (r : UInt32)
  | done
  | result (r : GetScoreResultCache)
  | dataId (d : UInt64)
  deriving DecidableEq, Repr

abbrev ScoreOutcome := Outcome ErrorType ScorePanic ScoreReply

def ScoreOp.call : ScoreOp → ScoreCall ScoresCache ScoreReply
  | .insertScore dbInfo comId boardId score npid onlineName now =>
    Call.mapOk .rank
      (ScoresCache.insertScore dbInfo comId boardId score npid onlineName now)
  | .setGameData comId userId characterId boardId dataId =>
    Call.mapOk (fun _ => .done)
      (ScoresCache.setGameData comId userId characterId boardId dataId)
  | .getScoreRange comId boardId startRank numRanks withComment withGameinfo =>
    Call.mapOk .result
      (ScoresCache.getScoreRange comId boardId startRank numRanks withComment withGameinfo)
  | .getScoreIds comId boardId npids withComment withGameinfo =>
    Call.mapOk .result
      (ScoresCache.getScoreIds comId boardId npids withComment withGameinfo)
  | .containsScoreWithNoData comId userId characterId boardId score =>
    Call.mapOk (fun _ => .done)
      (ScoresCache.containsScoreWithNoData comId userId characterId boardId score)
  | .getGameDataId comId userId characterId boardId =>
    Call.mapOk .dataId (ScoresCache.getGameDataId comId userId characterId boardId)

/-- The cache is written by `record_score` alone. -/
def ScoreOp.isInsert : ScoreOp → Bool
  | .insertScore .. => true
  | _ => false

def cacheSystem (s₀ : ScoresCache) : System ScoresCache ScoreOp ScoreOutcome where
  init := s₀
  enabled _ _ := True
  step s op := op.call s

/-! ## 4. Reading a well-formed table -/

variable {lines : List ResultLine}

namespace ScoresCache

section Lines

variable {t : ScoreTableCache} {users : HashMap UserId ScoreUserCache} {i : Nat} {e : DbScoreInfo}
  {user : ScoreUserCache}

theorem lineAt_of_entry (he : t.sortedScores[i]? = some e) (hu : users.get? e.userId = some user) :
    lineAt t users i = .ok (lineFor user e i) := by
  unfold lineAt
  simp only [he, hu]

theorem lineOf_of_entry (hf : t.Filed) (he : t.sortedScores[i]? = some e)
    (hu : users.get? e.userId = some user) : lineOf t users e.key = .ok (lineFor user e i) := by
  unfold lineOf
  simp only [key, hf.pos he, hu, he]

end Lines

section Readers

variable {s : ScoresCache} {comId : ComId} {boardId : UInt32} {t : ScoreTableCache}
  (ht : s.tableFor (.new comId boardId) .default = t)
include ht

theorem getScoreRange_run {startRank numRanks : UInt32} (h : (List.range' (startRank - 1).toNat
        (min ((startRank - 1).toNat + numRanks.toNat) t.sortedScores.length -
          (startRank - 1).toNat)).mapM (lineAt t s.users) = .ok lines)
    (withComment withGameinfo : Bool) :
    getScoreRange comId boardId startRank numRanks withComment withGameinfo s =
      (.ok (resultOf t lines withComment withGameinfo), s.putTable (.new comId boardId) t) := by
  unfold getScoreRange
  rw [bind_ok (getTableOrInsert_run s _ _), bind_ok (read_run _)]
  simp only [ht, putTable_users, bind_run, h, ofPanic_ok, pure_run]

theorem getScoreIds_run {npids : List (UserId × Int)}
    (h : npids.mapM (lineOf t s.users) = .ok lines) (withComment withGameinfo : Bool) :
    getScoreIds comId boardId npids withComment withGameinfo s =
      (.ok (resultOf t lines withComment withGameinfo), s.putTable (.new comId boardId) t) := by
  unfold getScoreIds
  rw [bind_ok (getTableOrInsert_run s _ _), bind_ok (read_run _)]
  simp only [ht, putTable_users, bind_run, h, ofPanic_ok, pure_run]

end Readers

end ScoresCache

namespace ScoreTableCache

variable {users : HashMap UserId ScoreUserCache} {t : ScoreTableCache}

theorem Wf.lineAt_returns (h : t.Wf users) {i : Nat} (hi : i < t.sortedScores.length) :
    ∃ line, lineAt t users i = .ok line := by
  obtain ⟨u, hu⟩ := mem_keys.mp (h.known _ (List.getElem_mem hi))
  exact ⟨_, lineAt_of_entry (List.getElem?_eq_getElem hi) hu⟩

theorem Wf.lineOf_returns (h : t.Wf users) (id : UserId × Int) :
    ∃ line, lineOf t users id = .ok line := by
  cases hp : t.posOf id.1 id.2 with
  | none =>
    unfold lineOf
    rw [hp]
    exact ⟨_, rfl⟩
  | some i =>
    obtain ⟨e, he, hk⟩ := (h.filed _ _ _).mp hp
    obtain ⟨u, hu⟩ := mem_keys.mp (h.known e (List.mem_of_getElem? he))
    have hline := lineOf_of_entry h.filed he hu
    rw [hk] at hline
    exact ⟨_, hline⟩

theorem Wf.entryOf_run (h : t.Wf users) (userId : UserId) (characterId : Int) (s : ScoresCache) :
    (∃ e, entryOf t userId characterId s = (.ok e, s)) ∨
      entryOf t userId characterId s = (.err .notFound, s) := by
  unfold entryOf
  cases hp : t.posOf userId characterId with
  | none => exact Or.inr rfl
  | some i =>
    obtain ⟨e, he, _⟩ := (h.filed _ _ _).mp hp
    exact Or.inl ⟨e, by simp [he]⟩

end ScoreTableCache

namespace ScoresCache

/-- **A reading call returns a result or an error**, and at most adds the empty table it reads. -/
def Reads (s : ScoresCache) (comId : ComId) (boardId : UInt32) {α : Type}
    (c : ScoreCall ScoresCache α) : Prop :=
  (c s).1.isPanic = false ∧
    (c s).2 = s.putTable (.new comId boardId) (s.tableFor (.new comId boardId) .default)

variable {s : ScoresCache} (h : s.Wf)
include h

variable (comId : ComId) (boardId : UInt32)

theorem Wf.getScoreRange_reads (startRank numRanks : UInt32) (withComment withGameinfo : Bool) :
    Reads s comId boardId
      (getScoreRange comId boardId startRank numRanks withComment withGameinfo) := by
  have ht := h.tableFor (.new comId boardId) .default
  obtain ⟨lines, hlines⟩ := except_mapM_returns (f := lineAt (s.tableFor (.new comId boardId) .default)
    s.users) (List.range' (startRank - 1).toNat (min ((startRank - 1).toNat + numRanks.toNat)
      (s.tableFor (.new comId boardId) .default).sortedScores.length - (startRank - 1).toNat))
    fun i hi => ht.lineAt_returns (by rw [List.mem_range'_1] at hi; omega)
  unfold Reads
  rw [getScoreRange_run rfl hlines]
  exact ⟨rfl, rfl⟩

theorem Wf.getScoreIds_reads (npids : List (UserId × Int)) (withComment withGameinfo : Bool) :
    Reads s comId boardId
      (getScoreIds comId boardId npids withComment withGameinfo) := by
  have ht := h.tableFor (.new comId boardId) .default
  obtain ⟨lines, hlines⟩ := except_mapM_returns npids fun id _ => ht.lineOf_returns id
  unfold Reads
  rw [getScoreIds_run rfl hlines]
  exact ⟨rfl, rfl⟩

theorem Wf.containsScoreWithNoData_reads (userId : UserId) (characterId : Int) (boardId : UInt32)
    (score : Int) : Reads s comId boardId
      (containsScoreWithNoData comId userId characterId boardId score) := by
  unfold Reads containsScoreWithNoData
  rw [bind_ok (getTableOrInsert_run s _ _)]
  rcases (h.tableFor (.new comId boardId) .default).entryOf_run userId characterId
    (s.putTable (.new comId boardId) (s.tableFor (.new comId boardId) .default)) with ⟨e, he⟩ | he
  · rw [bind_ok he]
    split
    · exact ⟨rfl, rfl⟩
    · split <;> exact ⟨rfl, rfl⟩
  · rw [bind_err he]
    exact ⟨rfl, rfl⟩

theorem Wf.getGameDataId_reads (userId : UserId) (characterId : Int) (boardId : UInt32) :
    Reads s comId boardId
      (getGameDataId comId userId characterId boardId) := by
  unfold Reads getGameDataId
  rw [bind_ok (getTableOrInsert_run s _ _)]
  rcases (h.tableFor (.new comId boardId) .default).entryOf_run userId characterId
    (s.putTable (.new comId boardId) (s.tableFor (.new comId boardId) .default)) with ⟨e, he⟩ | he
  · rw [bind_ok he]
    cases e.dataId <;> exact ⟨rfl, rfl⟩
  · rw [bind_err he]
    exact ⟨rfl, rfl⟩

end ScoresCache

/-! ## 5. No panic, and well-formed tables -/

/-- The condition on an insertion: the table it works on has a limit of at least one, and the score
    ties with nobody else's entry there. Every other call may come at any time. -/
def InsertGuard (s : ScoresCache) : ScoreOp → Prop
  | .insertScore dbInfo comId boardId score _ _ _ =>
    1 ≤ (s.tableFor (.new comId boardId) dbInfo).tableInfo.rankLimit.toNat ∧
      (s.tableFor (.new comId boardId) dbInfo).Untied score
  | _ => True

variable {op : ScoreOp}

theorem ScoresCache.Wf.call_table {s : ScoresCache} (h : s.Wf) (hop : op.isInsert = false) :
    (op.call s).1.isPanic = false ∧
    ∃ desc scores, scores.map withoutData =
        (s.tableFor desc .default).sortedScores.map withoutData ∧
      (op.call s).2 = s.putTable desc { s.tableFor desc .default with sortedScores := scores } := by
  have hread : ∀ {α : Type} (f : α → ScoreReply) (comId : ComId) (boardId : UInt32)
      (c : ScoreCall ScoresCache α), Reads s comId boardId c →
      (mapOk f c s).1.isPanic = false ∧
      ∃ desc scores, scores.map withoutData =
          (s.tableFor desc .default).sortedScores.map withoutData ∧
        (mapOk f c s).2 =
          s.putTable desc { s.tableFor desc .default with sortedScores := scores } := by
    intro α f comId boardId c hc
    rw [mapOk_isPanic, mapOk_state, hc.2]
    exact ⟨hc.1, .new comId boardId, _, rfl, rfl⟩
  cases op with
  | insertScore => cases hop
  | setGameData comId userId characterId boardId dataId =>
    obtain ⟨o, scores, hrun, ho, hsame⟩ := setGameData_run
      (h.tableFor (.new comId boardId) .default) userId characterId dataId
    rw [ScoreOp.call, mapOk_isPanic, mapOk_state, hrun]
    exact ⟨ho, _, scores, hsame, rfl⟩
  | getScoreRange comId boardId startRank numRanks withComment withGameinfo =>
    exact hread _ _ _ _
      (h.getScoreRange_reads comId boardId startRank numRanks withComment withGameinfo)
  | getScoreIds comId boardId npids withComment withGameinfo =>
    exact hread _ _ _ _ (h.getScoreIds_reads comId boardId npids withComment withGameinfo)
  | containsScoreWithNoData comId userId characterId boardId score =>
    exact hread _ _ _ _ (h.containsScoreWithNoData_reads comId userId characterId boardId score)
  | getGameDataId comId userId characterId boardId =>
    exact hread _ _ _ _ (h.getGameDataId_reads comId userId characterId boardId)

theorem ScoresCache.Wf.call {s : ScoresCache} (h : s.Wf) (hg : InsertGuard s op) :
    (op.call s).1.isPanic = false ∧ (op.call s).2.Wf := by
  cases hop : op.isInsert with
  | false =>
    obtain ⟨ho, desc, scores, hsame, hs⟩ := h.call_table hop
    rw [hs]
    exact ⟨ho, h.putTable _ ((h.tableFor desc .default).congr hsame)⟩
  | true =>
    cases op with
    | insertScore dbInfo comId boardId score npid onlineName now =>
      obtain ⟨rank, h', hrun, hins⟩ := insertScore_run (h.tableFor _ dbInfo)
        hg.1 hg.2 npid onlineName now
      rw [ScoreOp.call, mapOk_isPanic, mapOk_state, hrun]
      exact ⟨rfl, h.afterInsert _ hins⟩
    | _ => cases hop

/-- **The score table's representation invariant.** On a well-formed table with a limit of at least
    one, `insert_score` of a score that ties with nobody else's entry returns and leaves the table
    well formed; on a well-formed table so does `set_game_data`, with success or with an error. And
    from every cache of well-formed tables, along every run of calls whose insertions meet that
    condition, no call panics and every table stays well formed. -/
theorem scoreTable_wellFormed :
    (∀ (s : ScoresCache) (dbInfo : DbBoardInfo) (comId : ComId) (boardId : UInt32)
        (score : DbScoreInfo) (npid onlineName : String) (now : UInt64),
      (s.tableFor (.new comId boardId) dbInfo).Wf s.users →
      1 ≤ (s.tableFor (.new comId boardId) dbInfo).tableInfo.rankLimit.toNat →
      (s.tableFor (.new comId boardId) dbInfo).Untied score →
      ∃ rank s' t', ScoresCache.insertScore dbInfo comId boardId score npid onlineName now s =
          (.ok rank, s') ∧
        s'.getTable comId boardId = some t' ∧ t'.Wf s'.users) ∧
    (∀ (s : ScoresCache) (comId : ComId) (userId : UserId) (characterId : Int) (boardId : UInt32)
        (dataId : UInt64),
      (s.tableFor (.new comId boardId) .default).Wf s.users →
      ∃ o s' t', ScoresCache.setGameData comId userId characterId boardId dataId s = (o, s') ∧
        o.isPanic = false ∧ s'.getTable comId boardId = some t' ∧ t'.Wf s'.users) ∧
    (∀ (s₀ : ScoresCache), s₀.Wf → ∀ (es : List (ScoreOp × ScoreOutcome)) (s : ScoresCache),
      ((cacheSystem s₀).restrict InsertGuard).Run es s →
      s.Wf ∧ ∀ e ∈ es, e.2.isPanic = false) := by
  refine ⟨?_, ?_, ?_⟩
  · intro s dbInfo comId boardId score npid onlineName now hw hl hu
    obtain ⟨rank, h', hrun, hins⟩ := ScoresCache.insertScore_run hw hl hu npid onlineName now
    exact ⟨rank, _, h'.table, hrun, by simp [ScoresCache.getTable, ScoresCache.afterInsert],
      hins.wf⟩
  · intro s comId userId characterId boardId dataId hw
    obtain ⟨o, scores, hrun, ho, hsame⟩ :=
      ScoresCache.setGameData_run hw userId characterId dataId
    exact ⟨o, _, _, hrun, ho, by simp [ScoresCache.getTable, ScoresCache.putTable], hw.congr hsame⟩
  · intro s₀ h₀ es s hrun
    refine hrun.history (I := fun es s => s.Wf ∧ ∀ e ∈ es, e.2.isPanic = false) ⟨h₀, by simp⟩ ?_
    intro es s op _ ih he
    have hcall := ih.1.call he.2
    refine ⟨hcall.2, ?_⟩
    intro e hmem
    rcases List.mem_append.mp hmem with hmem | hmem
    · exact ih.2 e hmem
    · rw [List.mem_singleton.mp hmem]
      exact hcall.1

instance (t : ScoreTableCache) (score : DbScoreInfo) : Decidable (t.Untied score) :=
  inferInstanceAs (Decidable (∀ e ∈ t.sortedScores, e.key ≠ score.key →
    score.cmp e t.tableInfo.sortMode ≠ .eq))

instance (s : ScoresCache) (op : ScoreOp) : Decidable (InsertGuard s op) :=
  match op with
  | .insertScore dbInfo comId boardId score _ _ _ => inferInstanceAs (Decidable
      (1 ≤ (s.tableFor (.new comId boardId) dbInfo).tableInfo.rankLimit.toNat ∧
        (s.tableFor (.new comId boardId) dbInfo).Untied score))
  | .setGameData .. | .getScoreRange .. | .getScoreIds .. | .containsScoreWithNoData ..
  | .getGameDataId .. => inferInstanceAs (Decidable True)

def titleComId : ComId := Vector.replicate 12 0x41

def boardOfTwo : DbBoardInfo := { DbBoardInfo.default with rankLimit := 2 }

def scoreOf (userId score : Int) (timestamp : UInt64) : DbScoreInfo :=
  ⟨userId, 0, score, none, none, none, timestamp⟩

def insertOf (score : DbScoreInfo) : ScoreOp :=
  .insertScore boardOfTwo titleComId 1 score "npid" "online" 0

theorem scoreTable_wellFormed_evicting :
    ∃ es s t, ((cacheSystem .new).restrict InsertGuard).Run es s ∧
      (s.Wf ∧ ∀ e ∈ es, e.2.isPanic = false) ∧ s.getTable titleComId 1 = some t ∧
      t.sortedScores = [scoreOf 2 20 2, scoreOf 3 18 4] := by
  have h1 : ((cacheSystem .new).restrict InsertGuard).Run _ _ :=
    .step (insertOf (scoreOf 1 10 1)) .start ⟨trivial, by decide⟩
  have h2 := System.Run.step (insertOf (scoreOf 2 20 2)) h1 ⟨trivial, by decide⟩
  have h3 := System.Run.step (insertOf (scoreOf 1 15 3)) h2 ⟨trivial, by decide⟩
  have h4 := System.Run.step (insertOf (scoreOf 3 18 4)) h3 ⟨trivial, by decide⟩
  exact ⟨_, _, _, h4, scoreTable_wellFormed.2.2 _ ScoresCache.wf_new _ _ h4, rfl, by decide⟩

end Rpcn
