/-
  File:      Rpcn/Tus/Data.lean
  Subject:   TITLE USER STORAGE: the tables and files of its data, and the statements on them.

  A slot belongs to a user or to a virtual user and holds one blob. The row of the slot is in the
  database, the blob in a file of the directory `tus_data`, named by the `data_id` of the row; ids
  come from an atomic counter, the dispenser, which a start of the server sets by the directory.
-/
import Mathlib.Order.Lattice.Nat
import Rpcn.Account.Database
import Rpcn.Score.Database

namespace Rpcn.Tus

open Lib
open Database (storable)

/-! ## 1. Requests -/

/-- `Result<ErrorType, ErrorType>`, what a handler returns. -/
abbrev Reply := Except ErrorType ErrorType

structure TusUser where
  vuser : Bool
  npid : String
  deriving DecidableEq, Repr

structure TusSetDataRequest where
  user : Option TusUser
  slotId : Int32
  data : List UInt8
  info : List UInt8
  isLastChangedDate : List UInt64
  isLastChangedAuthorId : String
  deriving DecidableEq

structure TusGetDataRequest where
  user : Option TusUser
  slotId : Int32
  deriving DecidableEq

structure TusDeleteMultiSlotDataRequest where
  user : Option TusUser
  slotIdArray : List Int32
  deriving DecidableEq

structure TusDataStatus where
  ownerId : String
  hasData : Bool
  lastChangedDate : UInt64
  lastChangedAuthorId : String
  info : List UInt8
  deriving DecidableEq

structure TusData where
  status : Option TusDataStatus
  data : List UInt8
  deriving DecidableEq

def sceNpTusDataInfoMaxSize : Nat := 387

def undocumentedTusDataMaxSize : Nat := 1024 * 1024

/-! ## 2. Slots -/

inductive Owner where
  | user (userId : UserId)
  | vuser (name : String)
  deriving DecidableEq

structure SlotKey where
  owner : Owner
  comId : ComId
  slotId : Int32
  deriving DecidableEq

/-- `tus_req.user`, which has to name somebody. -/
def checkUser : Option TusUser → Except Reply TusUser
  | none => .error (.error .malformed)
  | some user => if user.npid = "" then .error (.error .malformed) else .ok user

/-- Whose slots a request reads. -/
def findOwner (acc : Account.Database) (user : TusUser) : Except Reply Owner :=
  if user.vuser then .ok (.vuser user.npid)
  else
    match acc.getUserId user.npid with
    | .error .empty => .error (.ok .notFound)
    | .error _ => .error (.error .dbFail)
    | .ok userId => .ok (.user userId)

/-- Whose slots a request writes: those of a virtual user are everybody's, those of a user only
    the client's own. -/
def findOwnOwner (acc : Account.Database) (clientId : UserId) (user : TusUser) :
    Except Reply Owner :=
  match findOwner acc user with
  | .ok (.user userId) =>
    if userId ≠ clientId then .error (.ok .unauthorized) else .ok (.user userId)
  | r => r

/-- `is_last_changed_date`: one date to compare with, or none. -/
def compareTimestamp : List UInt64 → Except Reply (Option UInt64)
  | [] => .ok none
  | [t] => .ok (some t)
  | _ => .error (.error .malformed)

/-- Has everybody whom a row names an account? -/
def hasAccounts (acc : Account.Database) (owner : Owner) (authorId : UserId) : Bool :=
  authorId ∈ acc.account.keys &&
    match owner with
    | .user userId => userId ∈ acc.account.keys
    | .vuser _ => true

/-! ## 3. Rows -/

structure DataRow where
  dataId : UInt64
  dataInfo : List UInt8
  timestamp : UInt64
  authorId : UserId
  deriving DecidableEq

structure Store where
  tusData : HashMap SlotKey DataRow
  /-- The directory `tus_data`. -/
  files : HashMap UInt64 (List UInt8)
  /-- `TUS_DATA_ID_DISPENSER`. -/
  dispenser : UInt64
  deriving DecidableEq

/-- `prepare_cond_string`: the `WHERE` of an upsert, as a test of the row there. -/
def condHolds (compareTimestamp : Option UInt64) (compareAuthor : Option UserId)
    (timestamp : UInt64) (authorId : UserId) : Bool :=
  compareTimestamp.all (timestamp ≤ ·) && compareAuthor.all (authorId = ·)

/-- `preliminary_set_tus_data_check`: a reply where the request need not go on. -/
def preliminarySetTusDataCheck (row : Option DataRow) (compareTimestamp : Option UInt64)
    (compareAuthorId : Option UserId) : Option Reply :=
  if compareTimestamp.isSome || compareAuthorId.isSome then
    match row with
    | none => none
    | some row =>
      if compareTimestamp.any (row.timestamp > ·) then some (.ok .condFail)
      else if compareAuthorId.any (· ≠ row.authorId) then some (.ok .condFail)
      else none
  else none

namespace Store

/-- `tus_set_user_data`, `tus_set_vuser_data`. -/
def setData (acc : Account.Database) (s : Store) (key : SlotKey) (row : DataRow)
    (compareTimestamp : Option UInt64) (compareAuthor : Option UserId) : Except DbError Store :=
  if !(storable row.dataId && storable row.timestamp) then .error .internal
  else if (s.tusData.get? key).any fun old =>
      !condHolds compareTimestamp compareAuthor old.timestamp old.authorId then .error .empty
  else if hasAccounts acc key.owner row.authorId then
    .ok { s with tusData := s.tusData.insert key row }
  else .error .internal

/-- `tus_delete_user_data_with_slotlist`, `tus_delete_vuser_data_with_slotlist`. The files stay. -/
def deleteDataWithSlotlist (s : Store) (owner : Owner) (comId : ComId) (slotList : List Int32) :
    Store :=
  { s with tusData := s.tusData.retain fun k _ =>
      !(k.owner = owner ∧ k.comId = comId ∧ k.slotId ∈ slotList) }

/-- `tus_get_all_data_ids`: an id met twice is an error. -/
def tusGetAllDataIds (s : Store) : Except DbError (Finset UInt64) :=
  let ids := s.tusData.values.map (·.dataId)
  if ids.Nodup then .ok ids.toFinset else .error .internal

/-! ## 4. Files -/

inductive Creation where
  | complete
  | createFailed
  /-- `write_all` fails after some bytes. -/
  | writeFailed (written : Nat)
  /-- The server is stopped after some bytes. -/
  | interrupted (written : Nat)
  deriving DecidableEq

/-- What the creation leaves: the next id is dispensed, the file is there as far as written. -/
def afterCreation (s : Store) (data : List UInt8) : Creation → Store
  | .complete =>
    { s with dispenser := s.dispenser + 1, files := s.files.insert s.dispenser data }
  | .createFailed => { s with dispenser := s.dispenser + 1 }
  | .writeFailed written | .interrupted written =>
    { s with
      dispenser := s.dispenser + 1
      files := s.files.insert s.dispenser (data.take written) }

/-- `create_tus_data_file`: the id dispensed, or 0 after an error; nothing if it does not return. -/
def createTusDataFile (s : Store) (data : List UInt8) (c : Creation) : Option UInt64 × Store :=
  (match c with
    | .complete => some s.dispenser
    | .createFailed | .writeFailed _ => some 0
    | .interrupted _ => none,
   s.afterCreation data c)

def getTusDataFile (s : Store) (id : UInt64) : Except ErrorType (List UInt8) :=
  match s.files.get? id with
  | none => .error .notFound
  | some data => .ok data

def deleteTusData (s : Store) (id : UInt64) : Store := { s with files := s.files.remove id }

/-! ## 5. The start of the server -/

/-- `create_data_directory`: the largest id there and one more. -/
def createDataDirectory (s : Store) : UInt64 := UInt64.ofNat (s.files.keys.sup UInt64.toNat) + 1

def initializeTusDataHandler (s : Store) : Store := { s with dispenser := s.createDataDirectory }

/-- `clean_tus_data`: the files no row names are deleted. -/
def cleanTusData (s : Store) : Except String Store :=
  match s.tusGetAllDataIds with
  | .error _ => .error "Failure to get tus data ids from database"
  | .ok ids => .ok { s with files := s.files.retain fun id _ => id ∈ ids }

/-- `Server::new`, as far as it is about this store. -/
def serverNew (s : Store) : Except String Store := s.initializeTusDataHandler.cleanTusData

def start : Store := ⟨∅, ∅, 1⟩

end Store

def oneAccount : Account.Database :=
  (((Account.Database.empty [] []).insertAccount
    ⟨"ada", [], [], "ada", "", "ada", "ada", "", false, false, false⟩).map (·.2)).getD (.empty [] [])

end Rpcn.Tus
