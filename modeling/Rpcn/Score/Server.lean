/-
  File:      Rpcn/Score/Server.lean
  Subject:   THE SCORE COMMANDS (cmd_score.rs): database and cache together, and their runs.

  `Client::record_score` writes the database first and the cache only if the database took the
  score. `Client::record_score_data` looks into the cache, sets the data id there and then in the
  database, with other commands in between: it is three steps of a run here.
-/
import Rpcn.Score.Database
import Rpcn.Score.WellFormed

namespace Rpcn

open Lib Np2Structs

structure ScoreServer where
  db : Database
  scoreCache : ScoresCache

variable {s : ScoreServer} {db : Database}

namespace ScoreServer

variable {α : Type}

/-- A database call. Its error is a value for the caller. -/
def onDb (c : DbCall α) : ScoreCall ScoreServer (Except DbError α) := fun s =>
  match c s.db with
  | (.ok a, db) => (.ok (.ok a), { s with db := db })
  | (.err e, db) => (.ok (.error e), { s with db := db })
  | (.panic p, db) => (.panic p, { s with db := db })

theorem onDb_ok {c : DbCall α} {a : α} (hc : c s.db = (.ok a, db)) :
    onDb c s = (.ok (.ok a), { s with db := db }) := by
  unfold onDb
  rw [hc]

theorem onDb_err {c : DbCall α} {e : DbError} (hc : c s.db = (.err e, db)) :
    onDb c s = (.ok (.error e), { s with db := db }) := by
  unfold onDb
  rw [hc]

def onCache (c : ScoreCall ScoresCache α) : ScoreCall ScoreServer α := fun s =>
  ((c s.scoreCache).1, { s with scoreCache := (c s.scoreCache).2 })

/-- The score of a request; empty comments and data are stored as `NULL`. -/
def scoreInfos (cinfo : ClientInfo) (req : RecordScoreRequest) (now : UInt64) : DbScoreInfo where
  userId := cinfo.userId
  characterId := req.pcId
  score := req.score
  comment := if req.comment = "" then none else some req.comment
  gameInfo := if req.data = [] then none else some req.data
  dataId := none
  timestamp := now

/-- `record_score`: the error code, and the rank on success. `now` is the time of the score,
    `insertTime` that of its insertion in the cache. -/
def recordScore (cinfo : ClientInfo) (comId : ComId) (req : RecordScoreRequest)
    (createMissing : Bool) (now insertTime : UInt64) :
    ScoreCall ScoreServer (ErrorType × Option UInt32) := do
  let res ← onDb (Database.recordScore comId req.boardId (scoreInfos cinfo req now) createMissing)
  match res with
  | .ok boardInfos => do
    let pos ← onCache (ScoresCache.insertScore boardInfos comId req.boardId
      (scoreInfos cinfo req now) cinfo.npid cinfo.onlineName insertTime)
    pure (.noError, some pos)
  | .error .scoreNotBest => pure (.scoreNotBest, none)
  | .error .internal => pure (.dbFail, none)
  | .error _ => Call.stop .unexpectedDbError

def getBoardInfos (comId : ComId) (boardId : UInt32) (createMissing : Bool) :
    ScoreCall ScoreServer (ErrorType × Option DbBoardInfo) := do
  let res ← onDb (Database.getBoardInfos (.new comId boardId) createMissing)
  match res with
  | .ok boardInfos => pure (.noError, some boardInfos)
  | .error .empty => pure (.notFound, none)
  | .error _ => Call.fail .dbFail

/-- The last step of `record_score_data`: a failure is logged, and the answer is success. -/
def setScoreData (comId : ComId) (userId : UserId) (characterId : Int) (boardId : UInt32)
    (score : Int) (dataId : UInt64) : ScoreCall ScoreServer ErrorType := do
  let _ ← onDb (Database.setScoreData comId userId characterId boardId score dataId)
  pure .noError

end ScoreServer

inductive ServerOp where
  | recordScore (cinfo : ClientInfo) (comId : ComId) (req : RecordScoreRequest)
      (createMissing : Bool) (now insertTime : UInt64)
  | getBoardInfos (comId : ComId) (boardId : UInt32) (createMissing : Bool)
  /-- A call on the cache: a query, or one of the first two steps of `record_score_data`. -/
  | cache (op : ScoreOp)
  | setScoreData (comId : ComId) (userId : UserId) (characterId : Int) (boardId : UInt32)
      (score : Int) (dataId : UInt64)

inductive ServerReply where
  | recorded (e : ErrorType) (rank : Option UInt32)
  | board (e : ErrorType) (infos : Option DbBoardInfo)
  | cache (r : ScoreReply)
  | code (e : ErrorType)
  deriving DecidableEq, Repr

abbrev ServerOutcome := Outcome ErrorType ScorePanic ServerReply

def ServerOp.call : ServerOp → ScoreCall ScoreServer ServerReply
  | .recordScore cinfo comId req createMissing now insertTime =>
    Call.mapOk (fun r => .recorded r.1 r.2)
      (ScoreServer.recordScore cinfo comId req createMissing now insertTime)
  | .getBoardInfos comId boardId createMissing =>
    Call.mapOk (fun r => .board r.1 r.2)
      (ScoreServer.getBoardInfos comId boardId createMissing)
  | .cache op => Call.mapOk .cache (ScoreServer.onCache op.call)
  | .setScoreData comId userId characterId boardId score dataId =>
    Call.mapOk .code
      (ScoreServer.setScoreData comId userId characterId boardId score dataId)

/-- **The requests possible in a state**: a new score has a timestamp that no row of its board has.
    Requests with pairwise distinct timestamps are of this kind. -/
def ServerOp.Possible (s : ScoreServer) : ServerOp → Prop
  | .recordScore _ comId req _ now _ =>
    ∀ e ∈ s.db.rowsOf (.new comId req.boardId), e.timestamp ≠ now
  | .cache op => op.isInsert = false
  | _ => True

def scoreServer (s₀ : ScoreServer) : System ScoreServer ServerOp ServerOutcome where
  init := s₀
  enabled s op := op.Possible s
  step s op := op.call s

end Rpcn
