/-
  File:      Rpcn/Score/Data.lean
  Subject:   THE DATA OF THE SCORE BOARDS: rows and boards of db_score.rs, tables, users and
             results of score_cache.rs.

  A score board exists twice: as rows of the database, and as a table of the cache that holds its
  best rows in rank order. Both know a score as a `DbScoreInfo`.
-/
import Rpcn.Lib.HashMap
import Rpcn.Np2Structs

namespace Rpcn

open Lib Np2Structs

/-! ## 1. Rows and boards -/

structure DbBoardInfo where
  rankLimit : UInt32
  updateMode : UInt32
  sortMode : UInt32
  uploadNumLimit : UInt32
  uploadSizeLimit : UInt32
  deriving DecidableEq, Repr

/-- `DbBoardInfo::default`: normal update, descending order. -/
def DbBoardInfo.default : DbBoardInfo := ⟨500, 0, 0, 60, 50000000⟩

structure DbScoreInfo where
  userId : UserId
  characterId : Int
  score : Int
  comment : Option String
  gameInfo : Option (List UInt8)
  dataId : Option UInt64
  timestamp : UInt64
  deriving DecidableEq, Repr

namespace DbScoreInfo

/-- `DbScoreInfo::cmp`: `Less` is the better rank. -/
def cmp (self other : DbScoreInfo) (sortMode : UInt32) : Ordering :=
  let retValue := if sortMode = 0 then Ordering.lt else Ordering.gt
  match compare self.score other.score with
  | .gt => retValue
  | .lt => retValue.swap
  | .eq =>
    match compare self.timestamp other.timestamp with
    | .lt => .lt
    | .gt => .gt
    -- the sides are swapped here: the larger user id ranks first
    | .eq => compare other.userId self.userId

/-- What a board lists at most once: a user with a character. -/
def key (self : DbScoreInfo) : UserId × Int := (self.userId, self.characterId)

end DbScoreInfo

/-! ## 2. The cache -/

structure ScoreUserCache where
  npid : String
  onlineName : String
  deriving DecidableEq, Repr

structure ScoreTableCache where
  sortedScores : List DbScoreInfo
  npidLookup : HashMap UserId (HashMap Int Nat)
  tableInfo : DbBoardInfo
  lastInsert : UInt64
  deriving DecidableEq

def ScoreTableCache.fromDb (dbInfo : DbBoardInfo) : ScoreTableCache := ⟨[], ∅, dbInfo, 0⟩

def ScoreTableCache.posOf (t : ScoreTableCache) (userId : UserId) (characterId : Int) :
    Option Nat :=
  t.npidLookup.get2? userId characterId

structure TableDescription where
  comId : List UInt8
  boardId : UInt32
  deriving DecidableEq, Repr

def TableDescription.new (comId : ComId) (boardId : UInt32) : TableDescription :=
  ⟨comIdToString comId, boardId⟩

structure ScoresCache where
  tables : HashMap TableDescription ScoreTableCache
  users : HashMap UserId ScoreUserCache

def ScoresCache.new : ScoresCache := ⟨∅, ∅⟩

/-! ## 3. Results -/

structure ScoreRankDataCache where
  npid : String
  onlineName : String
  pcid : Int
  rank : UInt32
  score : Int
  hasGamedata : Bool
  timestamp : UInt64
  deriving DecidableEq, Repr

def ScoreRankDataCache.default : ScoreRankDataCache := ⟨"", "", 0, 0, 0, false, 0⟩

/-- `ScoreRankDataCache::to_protobuf`: clients count ranks from one. -/
def ScoreRankDataCache.toProtobuf (self : ScoreRankDataCache) : ScoreRankData where
  npId := self.npid
  onlineName := self.onlineName
  pcId := self.pcid
  rank := self.rank + 1
  score := self.score
  hasGameData := self.hasGamedata
  recordDate := self.timestamp

structure GetScoreResultCache where
  scores : List ScoreRankDataCache
  comments : Option (List String)
  infos : Option (List (List UInt8))
  timestamp : UInt64
  totalRecords : UInt32
  deriving DecidableEq, Repr

/-- `GetScoreResultCache::serialize`, as the message it encodes. -/
def GetScoreResultCache.serialize (self : GetScoreResultCache) : GetScoreResponse where
  rankArray := self.scores.map ScoreRankDataCache.toProtobuf
  commentArray := self.comments.getD []
  infoArray := (self.infos.getD []).map ScoreInfo.mk
  lastSortDate := self.timestamp
  totalRecord := self.totalRecords

end Rpcn
