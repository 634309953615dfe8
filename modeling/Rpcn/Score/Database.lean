/-
  File:      Rpcn/Score/Database.lean
  Subject:   THE SCORE BOARDS IN THE DATABASE (db_score.rs) and the loading of the cache from them
             (`Server::initialize_score`).

  A table with a primary key is a map from the key to the other columns. The statements are read as
  SQLite runs them:
  * the upsert of `record_score` inserts a row, updates the row of the same key, or changes nothing
    when its `WHERE` fails, and counts the rows changed;
  * a new row needs the account of its user (the foreign key, a field of `Database`), and a `u64`
    is stored only if it fits an `i64`;
  * `ORDER BY` leaves open how rows with equal keys follow each other: the order in which the
    statement meets the rows is an input, `scan`, and the sort is stable.
-/
import Mathlib.Data.List.Sort
import Rpcn.Score.Cache

namespace Rpcn

open Lib

/-! ## 1. Tables -/

structure ScoreKey where
  desc : TableDescription
  userId : UserId
  characterId : Int
  deriving DecidableEq, Repr

structure ScoreColumns where
  score : Int
  comment : Option String
  gameInfo : Option (List UInt8)
  dataId : Option UInt64
  timestamp : UInt64
  deriving DecidableEq, Repr

/-- The tables the score functions use: the names in `account`, `score_table`, and `score`, whose
    rows have their account. -/
structure Database where
  accounts : HashMap UserId ScoreUserCache
  scoreTable : HashMap TableDescription DbBoardInfo
  score : HashMap ScoreKey ScoreColumns
  owned : ∀ k c, score.get? k = some c → k.userId ∈ accounts.keys

theorem Database.owned_empty (k : ScoreKey) (c : ScoreColumns)
    (h : (∅ : HashMap ScoreKey ScoreColumns).get? k = some c) :
    k.userId ∈ (∅ : HashMap UserId ScoreUserCache).keys := by
  cases h

abbrev DbCall := Call DbError ScorePanic Database

/-- A row as the queries return it. -/
def ScoreColumns.row (k : ScoreKey) (c : ScoreColumns) : DbScoreInfo where
  userId := k.userId
  characterId := k.characterId
  score := c.score
  comment := c.comment
  gameInfo := c.gameInfo
  dataId := c.dataId
  timestamp := c.timestamp

namespace Database

def rowsOf (db : Database) (desc : TableDescription) : Multiset DbScoreInfo :=
  (db.score.entries.filter fun p => p.1.desc = desc).map fun p => p.2.row p.1

def keyOf (desc : TableDescription) (score : DbScoreInfo) : ScoreKey :=
  ⟨desc, score.userId, score.characterId⟩

/-! ## 2. Boards -/

def createScoreBoard (desc : TableDescription) : DbCall Unit :=
  Call.modify fun db => { db with scoreTable := db.scoreTable.insert desc .default }

def findBoardInfos (desc : TableDescription) : DbCall DbBoardInfo := do
  let db ← Call.read
  match db.scoreTable.get? desc with
  | some infos => pure infos
  | none => Call.fail .empty

/-- `get_board_infos`: a missing board is made with the defaults and queried again, if the
    configuration asks for it. -/
def getBoardInfos (desc : TableDescription) (createMissing : Bool) : DbCall DbBoardInfo := do
  let db ← Call.read
  match db.scoreTable.get? desc with
  | some infos => pure infos
  | none =>
    if createMissing then do
      createScoreBoard desc
      findBoardInfos desc
    else Call.fail .empty

/-! ## 3. Scores -/

/-- A `u64` parameter that SQLite can store. -/
def storable (n : UInt64) : Bool := n.toNat < 2 ^ 63

/-- The `WHERE` of the three upserts: may the new score replace the old one? -/
def replaces (boardInfos : DbBoardInfo) (new old : Int) : Bool :=
  if boardInfos.updateMode = 0 then
    if boardInfos.sortMode = 0 then decide (old ≤ new) else decide (new ≤ old)
  else true

/-- The columns the upsert writes. The game data of an old score goes. -/
def columnsOf (score : DbScoreInfo) : ScoreColumns where
  score := score.score
  comment := score.comment
  gameInfo := score.gameInfo
  dataId := none
  timestamp := score.timestamp

/-- The row of a score written: inserted or updated. -/
def writeScore (db : Database) (desc : TableDescription) (score : DbScoreInfo)
    (h : score.userId ∈ db.accounts.keys) : Database where
  accounts := db.accounts
  scoreTable := db.scoreTable
  score := db.score.insert (keyOf desc score) (columnsOf score)
  owned := by
    intro k c hk
    rw [HashMap.get?_insert] at hk
    split at hk
    next e => exact e ▸ h
    next => exact db.owned k c hk

def upsertScore (desc : TableDescription) (boardInfos : DbBoardInfo) (score : DbScoreInfo) :
    DbCall Nat := fun db =>
  if storable score.timestamp then
    match h : db.score.get? (keyOf desc score) with
    | none =>
      if hu : score.userId ∈ db.accounts.keys then (.ok 1, db.writeScore desc score hu)
      else (.err .internal, db)
    | some old =>
      -- the row of the key has its account already
      if replaces boardInfos score.score old.score then
        (.ok 1, db.writeScore desc score (db.owned _ old h))
      else (.ok 0, db)
  else (.err .internal, db)

def recordScore (comId : ComId) (boardId : UInt32) (score : DbScoreInfo) (createMissing : Bool) :
    DbCall DbBoardInfo := do
  let boardInfos ← getBoardInfos (.new comId boardId) createMissing
  let n ← upsertScore (.new comId boardId) boardInfos score
  if n = 1 then pure boardInfos else Call.fail .scoreNotBest

/-- `UPDATE score SET data_id`, for the row of `k`. -/
def writeData (db : Database) (k : ScoreKey) (c : ScoreColumns) (dataId : UInt64)
    (h : k.userId ∈ db.accounts.keys) : Database where
  accounts := db.accounts
  scoreTable := db.scoreTable
  score := db.score.insert k { c with dataId := some dataId }
  owned := by
    intro k' c' hk
    rw [HashMap.get?_insert] at hk
    split at hk
    next e => exact e ▸ h
    next => exact db.owned k' c' hk

/-- `data_id .. UNIQUE`: another row, of any board, has the id. -/
def dataIdTaken (db : Database) (k : ScoreKey) (dataId : UInt64) : Bool :=
  0 < db.score.entries.countP fun p => p.1 ≠ k ∧ p.2.dataId = some dataId

def updateData (k : ScoreKey) (score : Int) (dataId : UInt64) : DbCall Nat := fun db =>
  if storable dataId then
    match h : db.score.get? k with
    | none => (.ok 0, db)
    | some c =>
      if c.score = score then
        if db.dataIdTaken k dataId then (.err .internal, db)
        else (.ok 1, db.writeData k c dataId (db.owned k c h))
      else (.ok 0, db)
  else (.err .internal, db)

def setScoreData (comId : ComId) (userId : UserId) (characterId : Int) (boardId : UInt32)
    (score : Int) (dataId : UInt64) : DbCall Unit := do
  let n ← updateData ⟨.new comId boardId, userId, characterId⟩ score dataId
  if n = 1 then pure () else Call.fail .invalid

/-! ## 4. Loading -/

/-- `ORDER BY score DESC, timestamp ASC, user_id ASC` for the sort mode 0, and `score ASC, ..` for
    any other. -/
def OrderBy (sortMode : UInt32) (a b : DbScoreInfo) : Prop :=
  (if sortMode = 0 then b.score < a.score else a.score < b.score) ∨ a.score = b.score ∧
    (a.timestamp < b.timestamp ∨ a.timestamp = b.timestamp ∧ a.userId ≤ b.userId)

instance (sortMode : UInt32) : DecidableRel (OrderBy sortMode) := fun a b =>
  inferInstanceAs (Decidable
    ((if sortMode = 0 then b.score < a.score else a.score < b.score) ∨ a.score = b.score ∧
      (a.timestamp < b.timestamp ∨ a.timestamp = b.timestamp ∧ a.userId ≤ b.userId)))

/-- `get_scores_from_table`, on the rows of the board in the order `scan`. -/
def getScoresFromTable (tableInfo : DbBoardInfo) (scan : List DbScoreInfo) : List DbScoreInfo :=
  (scan.insertionSort (OrderBy tableInfo.sortMode)).take tableInfo.rankLimit.toNat

end Database

def fileScores (sortedScores : List DbScoreInfo) : HashMap UserId (HashMap Int Nat) :=
  sortedScores.zipIdx.foldl (fun m p => m.insert2 p.1.userId p.1.characterId p.2) ∅

def loadTable (tableInfo : DbBoardInfo) (scan : List DbScoreInfo) (now : UInt64) :
    ScoreTableCache where
  sortedScores := Database.getScoresFromTable tableInfo scan
  npidLookup := fileScores (Database.getScoresFromTable tableInfo scan)
  tableInfo := tableInfo
  lastInsert := now

/-- The tables of `initialize_score`. `boards` is the order in which the boards are met, `scans`
    the order of the rows of each. -/
def loadTables (db : Database) (scans : TableDescription → List DbScoreInfo) (now : UInt64)
    (boards : List TableDescription) : HashMap TableDescription ScoreTableCache :=
  boards.foldl (fun tables desc =>
    match db.scoreTable.get? desc with
    | some tableInfo => tables.insert desc (loadTable tableInfo (scans desc) now)
    | none => tables) ∅

/-- The users of `initialize_score`: those listed, with the names of their accounts. -/
def loadUsers (db : Database) (usersList : List UserId) : HashMap UserId ScoreUserCache :=
  usersList.foldl (fun users userId =>
    match db.accounts.get? userId with
    | some names => users.insert userId names
    | none => users) ∅

/-- `initialize_score`, once the configured boards are set up. -/
def initializeScore (db : Database) (boards : List TableDescription)
    (scans : TableDescription → List DbScoreInfo) (now : UInt64) : ScoresCache where
  tables := loadTables db scans now boards
  users := loadUsers db (boards.flatMap fun desc =>
    match db.scoreTable.get? desc with
    | some tableInfo =>
      (Database.getScoresFromTable tableInfo (scans desc)).map DbScoreInfo.userId
    | none => [])

end Rpcn
