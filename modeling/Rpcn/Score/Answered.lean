/-
  File:      Rpcn/Score/Answered.lean
  Subject:   WHICH SCORES ARE ANSWERED (cmd_score.rs): the `unreachable!()` of `record_score`.

  The handler knows two errors of the database: the score is not the best, and an internal one. A
  third reaches it from `get_board_infos`, for a board that is missing and must not be made.
-/
import Rpcn.Score.DatabaseSpec
import Rpcn.Score.Server

namespace Rpcn

open Lib Np2Structs Call Database ScoreTableCache

/-! ## 1. The cache -/

variable {α : Type}

section Cache

variable (score : DbScoreInfo)

theorem takeOut_never : Never .unexpectedDbError (takeOut score) := by
  refine never_bind never_read fun table => ?_
  split
  · exact never_pure _
  · exact never_bind (never_check _ (by decide)) fun _ =>
      never_bind (never_write _) fun _ => never_pure _

theorem enters_never : Never .unexpectedDbError (enters score) := by
  refine never_bind never_read fun table => ?_
  refine never_ite (never_pure _) ?_
  exact never_bind (never_unwrap _ (by decide)) fun _ => never_pure _

theorem insertSorted_never : Never .unexpectedDbError (insertSorted score) := by
  refine never_bind never_read fun table => ?_
  refine never_bind (never_unwrap _ (by decide)) fun insertPos => ?_
  exact never_bind (never_check _ (by decide)) fun _ =>
    never_bind (never_write _) fun _ => never_pure _

theorem reindexFrom_never (start : Nat) :
    Never .unexpectedDbError (reindexFrom start) := by
  refine never_bind never_read fun table => never_forM fun i => ?_
  refine never_bind never_read fun table => ?_
  refine never_bind (never_unwrap _ (by decide)) fun cur => ?_
  exact never_bind (never_check _ (by decide)) fun _ => never_write _

theorem evictLast_never : Never .unexpectedDbError evictLast := by
  refine never_bind never_read fun table => never_ite ?_ (never_pure _)
  refine never_bind (never_unwrap _ (by decide)) fun last => ?_
  refine never_bind (never_write _) fun _ => ?_
  exact never_bind (never_check _ (by decide)) fun _ => never_write _

theorem onTable_never {c : ScoreCall ScoreTableCache α} (h : Never .unexpectedDbError c) :
    Never .unexpectedDbError (ScoresCache.Held.onTable c) :=
  never_bind never_read fun _ => never_within h

theorem addUser_never (userId : UserId) (npid onlineName : String) :
    Never .unexpectedDbError (ScoresCache.Held.addUser userId npid onlineName) := by
  refine never_bind never_read fun held => ?_
  split
  · exact never_pure _
  · exact never_write _

theorem insertScore_never (dbInfo : DbBoardInfo) (comId : ComId) (boardId : UInt32)
    (npid onlineName : String) (now : UInt64) :
    Never .unexpectedDbError
      (ScoresCache.insertScore dbInfo comId boardId score npid onlineName now) := by
  refine never_bind ?_ fun table =>
    never_bind never_read fun s => never_within ?_
  · refine never_bind never_read fun s => ?_
    split
    · exact never_pure _
    · exact never_bind (never_write _) fun _ => never_pure _
  · refine never_bind (onTable_never (takeOut_never score)) fun initialPos => ?_
    refine never_bind (onTable_never (never_modify _)) fun _ => ?_
    refine never_bind (onTable_never (enters_never score)) fun entering => ?_
    refine never_ite ?_ (never_bind never_read fun _ => never_pure _)
    refine never_bind (onTable_never (insertSorted_never score)) fun insertPos => ?_
    refine never_bind (addUser_never _ npid onlineName) fun _ => ?_
    refine never_bind (onTable_never (reindexFrom_never _)) fun _ => ?_
    exact never_bind (onTable_never evictLast_never) fun _ => never_pure _

end Cache

/-! ## 2. The database -/

/-- The results that `Client::record_score` has an arm for. -/
def Handled : Outcome DbError ScorePanic DbBoardInfo → Prop
  | .ok _ => True
  | .err e => e = .scoreNotBest ∨ e = .internal
  | .panic _ => False

theorem recordScore_result (db : Database) (comId : ComId) (boardId : UInt32)
    (score : DbScoreInfo) (createMissing : Bool) :
    db.HasBoard (.new comId boardId) createMissing ∧
        Handled (recordScore comId boardId score createMissing db).1 ∨
      ¬ db.HasBoard (.new comId boardId) createMissing ∧
        (recordScore comId boardId score createMissing db).1 = .err .empty := by
  unfold recordScore
  generalize TableDescription.new comId boardId = desc
  rcases getBoardInfos_cases db desc createMissing with ⟨hboard, hb⟩ | ⟨hboard, hb⟩
  · refine Or.inl ⟨hboard, ?_⟩
    rw [bind_ok hb]
    have hup := upsertScore_cases (db.withBoard desc createMissing) desc score
    rw [boardInfo_withBoard] at hup
    rcases hup with ⟨-, h, hrun⟩ | ⟨-, hrun | hrun⟩
    · rw [bind_ok hrun]
      exact trivial
    · rw [bind_ok hrun]
      exact Or.inl rfl
    · rw [bind_err hrun]
      exact Or.inr rfl
  · refine Or.inr ⟨hboard, ?_⟩
    rw [bind_err hb]

/-! ## 3. The handler -/

variable {now : UInt64} {db : Database} {createMissing : Bool} {s : ScoreServer}
  {cinfo : ClientInfo} {req : RecordScoreRequest}

namespace ScoreServer

theorem recordScore_handled {comId : ComId}
    (h : Handled (Database.recordScore comId req.boardId (scoreInfos cinfo req now) createMissing
      s.db).1) (insertTime : UInt64) :
    (recordScore cinfo comId req createMissing now insertTime s).1 ≠ .panic .unexpectedDbError := by
  unfold recordScore
  cases hrun : Database.recordScore comId req.boardId (scoreInfos cinfo req now) createMissing
      s.db with
  | mk o db =>
    rw [hrun] at h
    cases o with
    | ok boardInfos =>
      rw [bind_ok (onDb_ok hrun)]
      refine never_bind (fun s' => ?_) (fun _ => never_pure _) _
      exact insertScore_never _ boardInfos comId req.boardId cinfo.npid cinfo.onlineName
        insertTime s'.scoreCache
    | err e =>
      rw [bind_ok (onDb_err hrun)]
      rcases h with rfl | rfl
      · exact never_pure _ _
      · exact never_pure _ _
    | panic p => exact absurd h id

theorem recordScore_empty {comId : ComId}
    (h : (Database.recordScore comId req.boardId (scoreInfos cinfo req now) createMissing
      s.db).1 = .err .empty) (insertTime : UInt64) :
    (recordScore cinfo comId req createMissing now insertTime s).1 = .panic .unexpectedDbError := by
  unfold recordScore
  rw [bind_ok (onDb_err (Prod.ext h rfl))]
  rfl

end ScoreServer

/-- **Every request to record a score is answered** exactly if its board is there or is made. For
    every database and cache, both values of the setting and every request: the database returns
    something the handler knows exactly under that condition, and otherwise its `unreachable!()` is
    reached. -/
theorem record_score_answered (s : ScoreServer) (cinfo : ClientInfo) (comId : ComId)
    (req : RecordScoreRequest) (createMissing : Bool) (now insertTime : UInt64) :
    (Handled (Database.recordScore comId req.boardId (ScoreServer.scoreInfos cinfo req now)
        createMissing s.db).1 ↔
      createMissing = true ∨ s.db.scoreTable.get? (.new comId req.boardId) ≠ none) ∧
    ((ScoreServer.recordScore cinfo comId req createMissing now insertTime s).1 ≠
        .panic .unexpectedDbError ↔
      createMissing = true ∨ s.db.scoreTable.get? (.new comId req.boardId) ≠ none) := by
  rcases recordScore_result s.db comId req.boardId (ScoreServer.scoreInfos cinfo req now)
    createMissing with ⟨hboard, hhandled⟩ | ⟨hboard, hempty⟩
  · exact ⟨iff_of_true hhandled hboard,
      iff_of_true (ScoreServer.recordScore_handled hhandled insertTime) hboard⟩
  · refine ⟨iff_of_false ?_ hboard,
      iff_of_false (fun hne => hne (ScoreServer.recordScore_empty hempty insertTime)) hboard⟩
    rw [hempty]
    rintro (h | h)
    · cases h
    · cases h

def bareServer : ScoreServer := ⟨⟨∅, ∅, ∅, Database.owned_empty⟩, ⟨∅, ∅⟩⟩

theorem record_score_answered_created :
    (ScoreServer.recordScore ⟨7, "ada", "Ada", ""⟩ (Vector.replicate 12 0x41) ⟨1, 0, 100, "", []⟩
      true 5 5 bareServer).1 ≠ .panic .unexpectedDbError :=
  (record_score_answered bareServer ⟨7, "ada", "Ada", ""⟩ (Vector.replicate 12 0x41)
    ⟨1, 0, 100, "", []⟩ true 5 5).2.mpr (Or.inl rfl)

/-- **A score for a board that does not exist**, with `CreateMissing` off: the first score of any
    board takes the server to its `unreachable!()`. -/
theorem missing_board_panics :
    (ScoreServer.recordScore ⟨7, "ada", "Ada", ""⟩ (Vector.replicate 12 0x41) ⟨1, 0, 100, "", []⟩
      false 5 5 bareServer).1 = .panic .unexpectedDbError := by
  decide +kernel

end Rpcn
