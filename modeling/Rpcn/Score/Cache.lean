/-
  File:      Rpcn/Score/Cache.lean
  Subject:   THE SCORE CACHE: `ScoresCache` of score_cache.rs, call by call.

  `insert_score` takes the old entry out of the sorted vector, finds the place of the new one by
  binary search, puts it there, re-files the positions behind it and drops the last entry if the
  table has grown past its limit. Every step is a call on the table of its own, so that a panic in
  the middle leaves what the steps before it wrote: the locks are not poisoned.
-/
import Rpcn.Lib.BinarySearch
import Rpcn.Lib.Call
import Rpcn.Score.Data

namespace Rpcn

open Lib

inductive ScorePanic where
  /-- `sorted_scores.remove(pos)` or `sorted_scores[i]` past the end. -/
  | indexOutOfRange
  /-- `sorted_scores.insert(insert_pos, ..)` past the end. -/
  | insertOutOfRange
  /-- `sorted_scores.last().unwrap()` of an empty vector. -/
  | lastOfEmpty
  /-- `binary_search_by(..).unwrap_err()` of a match. -/
  | equalScore
  /-- `npid_lookup.get_mut(..).unwrap()` of a missing key. -/
  | lookupMissing
  /-- `users[&user_id]` of a missing user. -/
  | userMissing
  /-- The `unreachable!()` of `Client::record_score`. -/
  | unexpectedDbError
  deriving DecidableEq, Repr

abbrev ScoreCall := Call ErrorType ScorePanic

/-! ## 1. The steps of `insert_score` on the table -/

namespace ScoreTableCache

/-- The old entry of the user and character leaves the vector. Its filed position stays. -/
def takeOut (score : DbScoreInfo) : ScoreCall ScoreTableCache (Option Nat) := do
  let table ← Call.read
  match table.posOf score.userId score.characterId with
  | none => pure none
  | some pos => do
    Call.check (pos < table.sortedScores.length) .indexOutOfRange
    Call.write { table with sortedScores := table.sortedScores.eraseIdx pos }
    pure (some pos)

/-- Does the score enter the table: there is a place left, or it is better than the last one. -/
def enters (score : DbScoreInfo) : ScoreCall ScoreTableCache Bool := do
  let table ← Call.read
  if table.sortedScores.length < table.tableInfo.rankLimit.toNat then pure true
  else do
    let last ← Call.unwrap table.sortedScores.getLast? .lastOfEmpty
    pure (score.cmp last table.tableInfo.sortMode == .lt)

/-- `unwrap_err` of the search: where the score is to be inserted. -/
def insertPosOf (table : ScoreTableCache) (score : DbScoreInfo) : Option Nat :=
  match binarySearchBy (fun probe => probe.cmp score table.tableInfo.sortMode)
      table.sortedScores with
  | .ok _ => none
  | .error insertPos => some insertPos

/-- The score is inserted at its place, and the place filed. -/
def insertSorted (score : DbScoreInfo) : ScoreCall ScoreTableCache Nat := do
  let table ← Call.read
  let insertPos ← Call.unwrap (table.insertPosOf score) .equalScore
  Call.check (insertPos ≤ table.sortedScores.length) .insertOutOfRange
  Call.write { table with
    sortedScores := table.sortedScores.insertIdx insertPos score
    npidLookup := table.npidLookup.insert2 score.userId score.characterId insertPos }
  pure insertPos

/-- One round of the re-filing: the entry at `i` is filed there. It must be filed already. -/
def reindexAt (i : Nat) : ScoreCall ScoreTableCache PUnit := do
  let table ← Call.read
  let cur ← Call.unwrap table.sortedScores[i]? .indexOutOfRange
  Call.check (table.posOf cur.userId cur.characterId).isSome .lookupMissing
  Call.write { table with
    npidLookup := table.npidLookup.insert2 cur.userId cur.characterId i }

def reindexFrom (start : Nat) : ScoreCall ScoreTableCache PUnit := do
  let table ← Call.read
  (List.range' start (table.sortedScores.length - start)).forM reindexAt

def evictLast : ScoreCall ScoreTableCache PUnit := do
  let table ← Call.read
  if table.tableInfo.rankLimit.toNat < table.sortedScores.length then do
    let last ← Call.unwrap table.sortedScores.getLast? .lastOfEmpty
    Call.write { table with sortedScores := table.sortedScores.dropLast }
    Call.check (table.npidLookup.get? last.userId).isSome .lookupMissing
    Call.write { table with
      sortedScores := table.sortedScores.dropLast
      npidLookup := table.npidLookup.remove2 last.userId last.characterId }
  else pure ()

/-- The first position to re-file: the old place or the one behind the new place. -/
def reorderStart (initialPos : Option Nat) (insertPos : Nat) : Nat :=
  match initialPos with
  | some pos => min pos (insertPos + 1)
  | none => insertPos + 1

def setData (userId : UserId) (characterId : Int) (dataId : UInt64) :
    ScoreCall ScoreTableCache Unit := do
  let table ← Call.read
  match table.posOf userId characterId with
  | none => Call.fail .notFound
  | some rank => do
    let theScore ← Call.unwrap table.sortedScores[rank]? .indexOutOfRange
    Call.write { table with
      sortedScores := table.sortedScores.set rank { theScore with dataId := some dataId } }

end ScoreTableCache

namespace ScoresCache

/-! ## 2. Writing calls -/

def getTable (s : ScoresCache) (comId : ComId) (boardId : UInt32) : Option ScoreTableCache :=
  s.tables.get? (TableDescription.new comId boardId)

def putTable (desc : TableDescription) (table : ScoreTableCache) (s : ScoresCache) : ScoresCache :=
  { s with tables := s.tables.insert desc table }

def getTableOrInsert (desc : TableDescription) (dbInfo : DbBoardInfo) :
    ScoreCall ScoresCache ScoreTableCache := do
  let s ← Call.read
  match s.tables.get? desc with
  | some table => pure table
  | none => do
    Call.write (s.putTable desc (.fromDb dbInfo))
    pure (.fromDb dbInfo)

structure Held where
  table : ScoreTableCache
  users : HashMap UserId ScoreUserCache

def Held.onTable {α : Type} (c : ScoreCall ScoreTableCache α) : ScoreCall Held α := do
  let h ← Call.read
  Call.within h.table (fun table h => { h with table := table }) c

/-- `add_user`: the first name known of a user stays. -/
def Held.addUser (userId : UserId) (npid onlineName : String) : ScoreCall Held Unit := do
  let h ← Call.read
  match h.users.get? userId with
  | some _ => pure ()
  | none => Call.write { h with users := h.users.insert userId ⟨npid, onlineName⟩ }

/-- The score has been found to enter: it is put in its place, and the table put in order. -/
def Held.enterScore (score : DbScoreInfo) (npid onlineName : String) (initialPos : Option Nat) :
    ScoreCall Held UInt32 := do
  let insertPos ← onTable (ScoreTableCache.insertSorted score)
  addUser score.userId npid onlineName
  onTable (ScoreTableCache.reindexFrom (ScoreTableCache.reorderStart initialPos insertPos))
  onTable ScoreTableCache.evictLast
  pure (insertPos + 1).toUInt32

/-- The body of `insert_score`, under the table's lock. `now` is the time of the insertion. -/
def Held.insertScore (score : DbScoreInfo) (npid onlineName : String) (now : UInt64) :
    ScoreCall Held UInt32 := do
  let initialPos ← onTable (ScoreTableCache.takeOut score)
  onTable (Call.modify fun table => { table with lastInsert := now })
  let entering ← onTable (ScoreTableCache.enters score)
  if entering then enterScore score npid onlineName initialPos
  else do
    let h ← Call.read
    pure (h.table.tableInfo.rankLimit + 1)

/-- `insert_score`: the rank given, counted from one, or one past the limit. -/
def insertScore (dbInfo : DbBoardInfo) (comId : ComId) (boardId : UInt32) (score : DbScoreInfo)
    (npid onlineName : String) (now : UInt64) : ScoreCall ScoresCache UInt32 := do
  let table ← getTableOrInsert (.new comId boardId) dbInfo
  let s ← Call.read
  Call.within (Held.mk table s.users)
    (fun h s => { s with
      tables := s.tables.insert (.new comId boardId) h.table
      users := h.users })
    (Held.insertScore score npid onlineName now)

def setGameData (comId : ComId) (userId : UserId) (characterId : Int) (boardId : UInt32)
    (dataId : UInt64) : ScoreCall ScoresCache Unit := do
  let table ← getTableOrInsert (.new comId boardId) .default
  Call.within table (putTable (.new comId boardId))
    (ScoreTableCache.setData userId characterId dataId)

/-! ## 3. Reading calls -/

/-- The entry filed for a user and a character. -/
def entryOf (table : ScoreTableCache) (userId : UserId) (characterId : Int) :
    ScoreCall ScoresCache DbScoreInfo :=
  match table.posOf userId characterId with
  | none => Call.fail .notFound
  | some rank => Call.unwrap table.sortedScores[rank]? .indexOutOfRange

def containsScoreWithNoData (comId : ComId) (userId : UserId) (characterId : Int)
    (boardId : UInt32) (score : Int) : ScoreCall ScoresCache Unit := do
  let table ← getTableOrInsert (.new comId boardId) .default
  let theScore ← entryOf table userId characterId
  if theScore.score ≠ score then Call.fail .scoreInvalid
  else if theScore.dataId.isSome then Call.fail .scoreHasData
  else pure ()

def getGameDataId (comId : ComId) (userId : UserId) (characterId : Int) (boardId : UInt32) :
    ScoreCall ScoresCache UInt64 := do
  let table ← getTableOrInsert (.new comId boardId) .default
  let theScore ← entryOf table userId characterId
  match theScore.dataId with
  | some dataId => pure dataId
  | none => Call.fail .notFound

structure ResultLine where
  data : ScoreRankDataCache
  comment : String
  gameInfo : List UInt8
  deriving DecidableEq, Repr

/-- The line both readers make of the entry at `index`. -/
def lineFor (curUser : ScoreUserCache) (curScore : DbScoreInfo) (index : Nat) : ResultLine where
  data := {
    npid := curUser.npid
    onlineName := curUser.onlineName
    pcid := curScore.characterId
    rank := index.toUInt32
    score := curScore.score
    hasGamedata := curScore.dataId.isSome
    timestamp := curScore.timestamp }
  comment := curScore.comment.getD ""
  gameInfo := curScore.gameInfo.getD []

/-- The line for a position. -/
def lineAt (table : ScoreTableCache) (users : HashMap UserId ScoreUserCache) (index : Nat) :
    Except ScorePanic ResultLine :=
  match table.sortedScores[index]? with
  | none => .error .indexOutOfRange
  | some curScore =>
    match users.get? curScore.userId with
    | none => .error .userMissing
    | some curUser => .ok (lineFor curUser curScore index)

/-- The line for a user and a character: the default one if they are not listed. -/
def lineOf (table : ScoreTableCache) (users : HashMap UserId ScoreUserCache)
    (id : UserId × Int) : Except ScorePanic ResultLine :=
  match table.posOf id.1 id.2 with
  | none => .ok ⟨.default, "", []⟩
  | some index =>
    match users.get? id.1 with
    | none => .error .userMissing
    | some curUser =>
      match table.sortedScores[index]? with
      | none => .error .indexOutOfRange
      | some curScore => .ok (lineFor curUser curScore index)

/-- The result both readers return, with the comments and infos if they are asked for. -/
def resultOf (table : ScoreTableCache) (lines : List ResultLine) (withComment withGameinfo : Bool) :
    GetScoreResultCache where
  scores := lines.map ResultLine.data
  comments := if withComment then some (lines.map ResultLine.comment) else none
  infos := if withGameinfo then some (lines.map ResultLine.gameInfo) else none
  timestamp := table.lastInsert
  totalRecords := table.sortedScores.length.toUInt32

/-- `get_score_range`. A start rank of zero wraps around. -/
def getScoreRange (comId : ComId) (boardId startRank numRanks : UInt32)
    (withComment withGameinfo : Bool) : ScoreCall ScoresCache GetScoreResultCache := do
  let table ← getTableOrInsert (.new comId boardId) .default
  let s ← Call.read
  let startIndex := (startRank - 1).toNat
  let endIndex := min (startIndex + numRanks.toNat) table.sortedScores.length
  let lines ← Call.ofPanic
    ((List.range' startIndex (endIndex - startIndex)).mapM (lineAt table s.users))
  pure (resultOf table lines withComment withGameinfo)

def getScoreIds (comId : ComId) (boardId : UInt32) (npids : List (UserId × Int))
    (withComment withGameinfo : Bool) : ScoreCall ScoresCache GetScoreResultCache := do
  let table ← getTableOrInsert (.new comId boardId) .default
  let s ← Call.read
  let lines ← Call.ofPanic (npids.mapM (lineOf table s.users))
  pure (resultOf table lines withComment withGameinfo)

end ScoresCache

end Rpcn
