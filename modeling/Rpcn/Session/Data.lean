/-
  File:      Rpcn/Session/Data.lean
  Subject:   WHAT THE CONNECTIONS SHARE, and where each of them is in its program.

  `SharedData` is the part of the server's state that logins, disconnects, bans, account deletions
  and room traffic have in common. Each of its fields is behind a lock of its own or an atomic, so
  nothing orders two steps but the lock they both need:
  * `writer` -- the task that holds `client_infos.write()`. A login, a deletion and the cleaner hold
    it over several database statements; all others take it for one step;
  * `notified` -- the connections whose `kick_notify` was notified. The permit stays until the
    connection's loop sees it and ends.
-/
import Rpcn.Account.Database
import Rpcn.Gui.Manager
import Rpcn.Room.Setters

namespace Rpcn.Session

open Lib Account

/-! ## 1. The game tracker -/

structure GameInfo where
  numUsers : Int
  nameHints : Finset String
  deriving DecidableEq

structure GameTracker where
  numUsers : Int
  psnGames : HashMap ComId GameInfo
  ticketGames : HashMap String Int
  deriving DecidableEq

namespace GameTracker

def new : GameTracker := ⟨0, ∅, ∅⟩

/-- `GameTracker::add_gamename_hint`. A game nobody was counted for has no entry to add to. -/
def addGamenameHint (g : GameTracker) (comId : ComId) (nameHint : String) : GameTracker :=
  match g.psnGames.get? comId with
  | none => g
  | some info =>
    { g with psnGames :=
        g.psnGames.insert comId { info with nameHints := insert nameHint info.nameHints } }

def increaseNumUsers (g : GameTracker) : GameTracker := { g with numUsers := g.numUsers + 1 }

def decreaseNumUsers (g : GameTracker) : GameTracker := { g with numUsers := g.numUsers - 1 }

def addValuePsn (g : GameTracker) (comId : ComId) (toAdd : Int) : GameTracker :=
  let info := (g.psnGames.get? comId).getD ⟨0, ∅⟩
  { g with psnGames := g.psnGames.insert comId { info with numUsers := info.numUsers + toAdd } }

def increaseCountPsn (g : GameTracker) (comId : ComId) : GameTracker := g.addValuePsn comId 1

def decreaseCountPsn (g : GameTracker) (comId : ComId) : GameTracker := g.addValuePsn comId (-1)

def addValueTicket (g : GameTracker) (serviceId : String) (toAdd : Int) : GameTracker :=
  { g with ticketGames :=
      g.ticketGames.insert serviceId ((g.ticketGames.get? serviceId).getD 0 + toAdd) }

def increaseCountTicket (g : GameTracker) (serviceId : String) : GameTracker :=
  g.addValueTicket serviceId 1

def decreaseCountTicket (g : GameTracker) (serviceId : String) : GameTracker :=
  g.addValueTicket serviceId (-1)

end GameTracker

/-! ## 2. The shared state -/

structure Config where
  isEmailValidated : Bool
  getServerRedirection : ComId → ComId
  hashRaw : String → List UInt8 → List UInt8

/-- The fields of `ClientSharedInfo` that are modelled: `kick_notify` is the connection that waits
    on it. -/
structure ClientSharedInfo where
  friends : HashMap UserId String
  kickNotify : Nat
  deriving DecidableEq

structure SharedData where
  db : Account.Database
  writer : Option Nat
  clientInfos : HashMap UserId ClientSharedInfo
  cleanupDuty : Finset UserId
  notified : Finset Nat
  gameTracker : GameTracker
  roomManager : RoomManager
  guiRoomManager : GuiRoomManager

def SharedData.start (db : Account.Database) : SharedData where
  db := db
  writer := none
  clientInfos := ∅
  cleanupDuty := ∅
  notified := ∅
  gameTracker := .new
  roomManager := .new
  guiRoomManager := .new

structure Client where
  authentified : Bool
  clientInfo : ClientInfo
  admin : Bool
  currentGame : Option ComId × Option String
  deriving DecidableEq

def Client.new : Client := ⟨false, ⟨0, "", "", ""⟩, false, (none, none)⟩

abbrev Client.userId (c : Client) : UserId := c.clientInfo.userId

/-! ## 3. Places -/

inductive LoginPc where
  /-- `check_user` returned the row, and it is not banned. -/
  | checked
  /-- Inside `client_infos.write()`. -/
  | entered
  /-- The user is not in `client_infos`. -/
  | absent
  /-- Nor in `cleanup_duty`. -/
  | cleared
  /-- `get_user_id` found the name again. -/
  | known
  | related (friends : HashMap UserId String)
  | stamped (friends : HashMap UserId String)
  /-- The session is in `client_infos`; the lock is still held. -/
  | published
  deriving DecidableEq

inductive DeletePc where
  | checked
  | entered
  | absent
  | prepared
  | nameHashed
  | emailHashed
  deriving DecidableEq

inductive BanPc where
  | found (userId : UserId)
  | recorded (userId : UserId)
  deriving DecidableEq

inductive CleanPc where
  | start
  | leaving (rest : List (ComId × UInt64))
  | left
  | leavingGui (rest : List GuiRoomId)
  | leftGui
  | psnDone
  | returned
  deriving DecidableEq

inductive Job where
  | idle
  | login (pc : LoginPc) (userId : UserId) (login : String) (row : AccountRow)
  | delUser (userId : UserId) (username : String)
  | delete (pc : DeletePc) (userId : UserId) (username emailCheck : String)
  | ban (pc : BanPc)
  /-- Between the two counter updates of `get_com_id_with_redir`. -/
  | switchGame (comId : ComId)
  /-- Between the two counter updates of `req_ticket`. -/
  | switchTicket (serviceId : String)
  | resetState (pc : CleanPc)
  deriving DecidableEq

inductive CleanupPc where
  | clean (pc : CleanPc)
  | uncounted
  | removed
  | announced
  deriving DecidableEq

inductive ApiPc where
  | received (adminUsername adminPassword username : String)
  | admitted (username : String)
  | ban (pc : BanPc)
  | answered
  deriving DecidableEq

inductive CleanerPc where
  | sleeping
  | entered
  | selected (stale : Finset UserId)
  | unstamped (stale : Finset UserId)
  | unfriended (stale : Finset UserId)
  deriving DecidableEq

inductive Task where
  | client (c : Client) (job : Job)
  | cleanup (c : Client) (pc : CleanupPc)
  | gone
  | api (pc : ApiPc)
  | cleaner (pc : CleanerPc)
  deriving DecidableEq

/-- A connection after a handler returned: only an authenticated one is read from again. A failed
    login and every `delete_account` end in an error, which closes the connection. -/
def Client.resume (c : Client) : Task := if c.authentified then .client c .idle else .gone

end Rpcn.Session
