/-
  File:      Rpcn/Session/Steps.lean
  Subject:   THE STEPS OF A CONNECTION, of the cleanup after it, of a ban and of the cleaner, each
             one atomic: a section under a lock, a database statement, an update of an atomic.

  A step is `none` where the task is not at it, or has to wait for `client_infos`. What a step draws
  or meets in an order of its own is a `Choice`. A release of the lock is part of the last step
  made under it.
-/
import Rpcn.Lib.Tasks
import Rpcn.Session.Data

namespace Rpcn.Session

open Lib Account

/-! ## 1. Requests and events -/

inductive Request where
  | login (login password token : String)
  | deleteAccount (login password : String)
  | banUser (username : String)
  | delUser (username : String)
  | resetState
  /-- Any command that carries a com id, malformed or not, up to `get_com_id_with_redir`. -/
  | comId (comId : ComId)
  | ticket (serviceId : String)
  | room (op : RoomOp)
  | gui (op : GuiOp)

structure Choice where
  scan : List (UserId × UserId) := []
  rooms : List (ComId × UInt64) := []
  guiRooms : List GuiRoomId := []
  members : List UserId := []
  random : Nat := 0
  timestamp : UInt32 := 0
  /-- Does an `INSERT` whose failure is ignored succeed? -/
  inserts : Bool := true

inductive Event where
  | silent
  /-- `check_user` let a login through. -/
  | checked (task : Nat) (userId : UserId)
  /-- `client_infos.insert`. -/
  | loggedIn (task : Nat) (userId : UserId)
  /-- A call on the room manager, for a request or a cleanup. -/
  | roomCall (task : Nat) (userId : UserId) (op : RoomOp) (outcome : RoomOutcome)
  | guiCall (task : Nat) (userId : UserId) (op : GuiOp) (outcome : GuiOutcome × Option GuiRoomId)
  /-- `client_infos.remove`. -/
  | removedInfo (task : Nat) (userId : UserId)
  /-- `cleanup_duty.remove`. -/
  | offDuty (task : Nat) (userId : UserId)
  /-- A ban has looked for a session and kicked it. -/
  | looked (userId : UserId)

instance : Inhabited Event := ⟨.silent⟩

abbrev Step := Option (Event × SharedData × Task)

/-- A request to the room manager names the client it comes from. -/
def RoomOp.MadeBy (cinfo : ClientInfo) : RoomOp → Prop
  | .createRoom _ _ c _ _ _ => c = cinfo
  | .joinRoom _ _ c _ _ => c = cinfo
  | .leaveRoom _ _ userId _ => userId = cinfo.userId
  | .setRoomdataExternal _ _ userId => userId = cinfo.userId
  | .setRoomdataInternal _ _ userId _ => userId = cinfo.userId
  | .setRoommemberdataInternal _ _ userId _ => userId = cinfo.userId

instance (cinfo : ClientInfo) : (op : RoomOp) → Decidable (RoomOp.MadeBy cinfo op)
  | .createRoom _ _ c _ _ _ => decEq c cinfo
  | .joinRoom _ _ c _ _ => decEq c cinfo
  | .leaveRoom _ _ userId _ => decEq userId cinfo.userId
  | .setRoomdataExternal _ _ userId => decEq userId cinfo.userId
  | .setRoomdataInternal _ _ userId _ => decEq userId cinfo.userId
  | .setRoommemberdataInternal _ _ userId _ => decEq userId cinfo.userId

/-- A request to the GUI room manager that names a client names the one it comes from. -/
def GuiOp.MadeBy (cinfo : ClientInfo) : GuiOp → Prop
  | .createRoomGui _ _ c => c = cinfo
  | .joinRoomGui _ c => c = cinfo
  | .leaveRoomGui _ c _ _ => c = cinfo
  | .quickmatchGui _ _ c _ => c = cinfo
  | .searchJoinGui _ _ c _ => c = cinfo
  | .setSearchFlag _ _ userId => userId = cinfo.userId
  | .setRoomInfoGui _ _ userId => userId = cinfo.userId
  | .getRoomListGui _ _ _ => True
  | .getSearchFlag _ => True
  | .getRoomInfoGui _ _ => True

instance (cinfo : ClientInfo) : (op : GuiOp) → Decidable (GuiOp.MadeBy cinfo op)
  | .createRoomGui _ _ c => decEq c cinfo
  | .joinRoomGui _ c => decEq c cinfo
  | .leaveRoomGui _ c _ _ => decEq c cinfo
  | .quickmatchGui _ _ c _ => decEq c cinfo
  | .searchJoinGui _ _ c _ => decEq c cinfo
  | .setSearchFlag _ _ userId => decEq userId cinfo.userId
  | .setRoomInfoGui _ _ userId => decEq userId cinfo.userId
  | .getRoomListGui _ _ _ => .isTrue trivial
  | .getSearchFlag _ => .isTrue trivial
  | .getRoomInfoGui _ _ => .isTrue trivial

/-! ## 2. The programs -/

namespace SharedData

/-- The guard of `client_infos.write()` is dropped. -/
def release (s : SharedData) : SharedData := { s with writer := none }

/-- `client_infos.write()`: waits until nobody holds the lock. -/
def acquire (s : SharedData) (i : Nat) : Option SharedData :=
  if s.writer = none then some { s with writer := some i } else none

def callRoom (s : SharedData) (i : Nat) (userId : UserId) (op : RoomOp) : Event × SharedData :=
  (.roomCall i userId op (op.call s.roomManager).1,
    { s with roomManager := (op.call s.roomManager).2 })

def callGui (s : SharedData) (i : Nat) (userId : UserId) (op : GuiOp) : Event × SharedData :=
  (.guiCall i userId op ((op.call s.guiRoomManager).1, op.generated s.guiRoomManager),
    { s with guiRoomManager := (op.call s.guiRoomManager).2 })

/-- `Client::leave_room`, the section under `room_manager.write()`: nothing is done for a room that
    is gone, or whose members do not include the user. -/
def leaveRoom (s : SharedData) (i : Nat) (userId : UserId) (comId : ComId) (roomId : UInt64)
    (random : Nat) : Event × SharedData :=
  match s.roomManager.rooms.get? (comId, roomId) with
  | none => (.silent, s)
  | some room =>
    match room.getMemberId userId with
    | .error _ => (.silent, s)
    | .ok _ => s.callRoom i userId (.leaveRoom comId roomId userId random)

/-- `client_infos.read().get(..)` and `kick`, which leaves a permit. -/
def kick (s : SharedData) (userId : UserId) : SharedData :=
  match s.clientInfos.get? userId with
  | some info => { s with notified := insert info.kickNotify s.notified }
  | none => s

end SharedData

/-- `HashMap::from_iter` of the friends found. -/
def friendMap (friends : List (UserId × String)) : HashMap UserId String :=
  friends.foldl (fun m p => m.insert p.1 p.2) ∅

def Client.authenticate (c : Client) (userId : UserId) (login : String) (row : AccountRow) :
    Client :=
  { c with
    authentified := true
    clientInfo := ⟨userId, login, row.onlineName, row.avatarUrl⟩
    admin := row.admin }

section Programs

variable (cfg : Config) (ch : Choice) (s : SharedData) (i : Nat)

def loginStep (c : Client) (userId : UserId) (login : String) (row : AccountRow) : LoginPc → Step
  | .checked => (s.acquire i).map fun s' =>
    (.silent, s', .client c (.login .entered userId login row))
  | .entered =>
    if userId ∈ s.clientInfos.keys then some (.silent, s.release, c.resume)
    else some (.silent, s, .client c (.login .absent userId login row))
  | .absent =>
    if userId ∈ s.cleanupDuty then some (.silent, s.release, c.resume)
    else some (.silent, s, .client c (.login .cleared userId login row))
  | .cleared =>
    match s.db.getUserId login with
    | .error _ => some (.silent, s.release, c.resume)
    | .ok _ => some (.silent, s, .client c (.login .known userId login row))
  | .known =>
    if Orders ch.scan (s.db.friendRows userId) then
      some (.silent, s, .client c (.login
        (.related (friendMap (s.db.getRelationships userId ch.scan).friends)) userId login row))
    else none
  | .related friends =>
    some (.silent, { s with db := s.db.updateLoginTime userId ch.timestamp },
      .client c (.login (.stamped friends) userId login row))
  | .stamped friends =>
    some (.loggedIn i userId,
      { s with clientInfos := s.clientInfos.insert userId ⟨friends, i⟩ },
      .client (c.authenticate userId login row) (.login .published userId login row))
  | .published =>
    some (.silent, { s.release with gameTracker := s.gameTracker.increaseNumUsers },
      .client c .idle)

/-- `delete_account` and `req_admin_del_user`, with `Database::delete_user`. -/
def deleteStep (c : Client) (userId : UserId) (username emailCheck : String) : DeletePc → Step
  | .checked => (s.acquire i).map fun s' =>
    (.silent, s', .client c (.delete .entered userId username emailCheck))
  | .entered =>
    if userId ∈ s.clientInfos.keys then some (.silent, s.release, c.resume)
    else some (.silent, s, .client c (.delete .absent userId username emailCheck))
  | .absent =>
    if username = Database.deletedUserUsername then some (.silent, s.release, c.resume)
    else
      match s.db.getUserId Database.deletedUserUsername with
      | .error _ => some (.silent, s.release, c.resume)
      | .ok _ => some (.silent, s, .client c (.delete .prepared userId username emailCheck))
  | .prepared =>
    some (.silent, { s with db :=
        if ch.inserts then
          s.db.insertUsernameHash (s.db.hashUsername cfg.hashRaw username) ch.timestamp
        else s.db },
      .client c (.delete .nameHashed userId username emailCheck))
  | .nameHashed =>
    some (.silent, { s with db :=
        if ch.inserts then
          s.db.insertEmailHash (s.db.hashEmail cfg.hashRaw emailCheck) ch.timestamp
        else s.db },
      .client c (.delete .emailHashed userId username emailCheck))
  | .emailHashed =>
    some (.silent, { s.release with db := s.db.deleteAccounts {userId} }, c.resume)

/-- The two steps of a ban after the user was found; `none` for its place when it is done. -/
def banStep : BanPc → Option (Event × SharedData × Option BanPc)
  | .found userId =>
    some (.silent, { s with db := s.db.banUser userId }, some (.recorded userId))
  | .recorded userId =>
    if s.writer = none then
      some (.looked userId, s.kick userId, none)
    else none

/-- `Client::clean_user_state`. The sets of rooms are read once; the errors of the leaves are
    ignored. -/
def cleanStep (c : Client) : CleanPc → Option (Event × SharedData × Client × CleanPc)
  | .start =>
    if Orders ch.rooms ((s.roomManager.getRoomsByUser c.userId).getD ∅) then
      some (.silent, s, c, .leaving ch.rooms)
    else none
  | .leaving [] => some (.silent, s, c, .left)
  | .leaving ((comId, roomId) :: rest) =>
    let r := s.leaveRoom i c.userId comId roomId ch.random
    some (r.1, r.2, c, .leaving rest)
  | .left =>
    if Orders ch.guiRooms ((s.guiRoomManager.getRoomsByUser c.userId).getD ∅) then
      some (.silent, s, c, .leavingGui ch.guiRooms)
    else none
  | .leavingGui [] => some (.silent, s, c, .leftGui)
  | .leavingGui (roomId :: rest) =>
    if (GuiOp.leaveRoomGui roomId c.clientInfo ch.members ch.random).Possible
        s.guiRoomManager then
      let r := s.callGui i c.userId (.leaveRoomGui roomId c.clientInfo ch.members ch.random)
      some (r.1, r.2, c, .leavingGui rest)
    else none
  | .leftGui =>
    match c.currentGame.1 with
    | none => some (.silent, s, c, .psnDone)
    | some comId =>
      some (.silent, { s with gameTracker := s.gameTracker.decreaseCountPsn comId },
        { c with currentGame := (none, c.currentGame.2) }, .psnDone)
  | .psnDone =>
    match c.currentGame.2 with
    | none => some (.silent, s, c, .returned)
    | some serviceId =>
      some (.silent, { s with gameTracker := s.gameTracker.decreaseCountTicket serviceId },
        { c with currentGame := (c.currentGame.1, none) }, .returned)
  | .returned => none

/-- The task spawned by `Drop for Client`. -/
def cleanupStep (c : Client) : CleanupPc → Step
  | .clean .returned =>
    some (.silent, { s with gameTracker := s.gameTracker.decreaseNumUsers },
      .cleanup c .uncounted)
  | .clean pc => (cleanStep ch s i c pc).map fun r =>
    (r.1, r.2.1, .cleanup r.2.2.1 (.clean r.2.2.2))
  | .uncounted =>
    if s.writer = none then
      some (.removedInfo i c.userId,
        { s with clientInfos := s.clientInfos.remove c.userId }, .cleanup c .removed)
    else none
  | .removed => some (.silent, s, .cleanup c .announced)
  | .announced =>
    some (.offDuty i c.userId, { s with cleanupDuty := s.cleanupDuty.erase c.userId }, .gone)

/-- `ban` of api_server/admin.rs: `authenticate_admin`, `get_user_admin_info`, the ban. -/
def apiStep : ApiPc → Step
  | .received adminUsername adminPassword username =>
    match s.db.checkUser cfg.hashRaw adminUsername adminPassword "" false with
    | .error _ => some (.silent, s, .api .answered)
    | .ok (_, row) =>
      if !row.admin || row.banned then some (.silent, s, .api .answered)
      else some (.silent, s, .api (.admitted username))
  | .admitted username =>
    match s.db.getUserId username with
    | .error _ => some (.silent, s, .api .answered)
    | .ok userId => some (.silent, s, .api (.ban (.found userId)))
  | .ban pc => (banStep s pc).map fun r => (r.1, r.2.1, .api (r.2.2.elim .answered .ban))
  | .answered => none

/-- `Cleaner::task_proc` at `cleanup_never_used_accounts`: the ids are selected once, and deleted
    from the three tables one after the other. -/
def cleanerStep : CleanerPc → Step
  | .sleeping => (s.acquire i).map fun s' => (.silent, s', .cleaner .entered)
  | .entered =>
    let stale := s.db.staleUserIds ch.timestamp
    if stale = ∅ then some (.silent, s.release, .cleaner .sleeping)
    else some (.silent, s, .cleaner (.selected stale))
  | .selected stale =>
    some (.silent, { s with db := s.db.deleteTimestamps stale }, .cleaner (.unstamped stale))
  | .unstamped stale =>
    some (.silent, { s with db := s.db.deleteFriendships stale }, .cleaner (.unfriended stale))
  | .unfriended stale =>
    some (.silent, { s.release with db := s.db.deleteAccounts stale }, .cleaner .sleeping)

def nextStep : Task → Step
  | .client _ .idle => none
  | .client c (.login pc userId login row) => loginStep ch s i c userId login row pc
  | .client c (.delUser userId username) =>
    match s.db.getEmailCheck userId with
    | .error _ => some (.silent, s, c.resume)
    | .ok emailCheck =>
      some (.silent, s, .client c (.delete .checked userId username emailCheck))
  | .client c (.delete pc userId username emailCheck) =>
    deleteStep cfg ch s i c userId username emailCheck pc
  | .client c (.ban pc) => (banStep s pc).map fun r =>
    (r.1, r.2.1, .client c (r.2.2.elim .idle .ban))
  | .client c (.switchGame comId) =>
    some (.silent, { s with gameTracker := s.gameTracker.increaseCountPsn comId }, .client c .idle)
  | .client c (.switchTicket serviceId) =>
    some (.silent, { s with gameTracker := s.gameTracker.increaseCountTicket serviceId },
      .client c .idle)
  | .client c (.resetState .returned) => some (.silent, s, .client c .idle)
  | .client c (.resetState pc) => (cleanStep ch s i c pc).map fun r =>
    (r.1, r.2.1, .client r.2.2.1 (.resetState r.2.2.2))
  | .cleanup c pc => cleanupStep ch s i c pc
  | .gone => none
  | .api pc => apiStep cfg s pc
  | .cleaner pc => cleanerStep ch s i pc

end Programs

/-! ## 3. Requests -/

section Requests

variable (cfg : Config) (s : SharedData) (i : Nat)

/-- `get_com_id_with_redir`, up to the first counter update. -/
def comIdStep (c : Client) (comId : ComId) : Step :=
  let finalComId := cfg.getServerRedirection comId
  match c.currentGame.1 with
  | some curComId =>
    if curComId ≠ finalComId then
      some (.silent, { s with gameTracker := s.gameTracker.decreaseCountPsn curComId },
        .client { c with currentGame := (some finalComId, c.currentGame.2) }
          (.switchGame finalComId))
    else some (.silent, s, .client c .idle)
  | none =>
    some (.silent, { s with gameTracker := s.gameTracker.increaseCountPsn finalComId },
      .client { c with currentGame := (some finalComId, c.currentGame.2) } .idle)

/-- `req_ticket`, up to the first counter update. -/
def ticketStep (c : Client) (serviceId : String) : Step :=
  match c.currentGame.2 with
  | some curServiceId =>
    if curServiceId ≠ serviceId then
      some (.silent, { s with gameTracker := s.gameTracker.decreaseCountTicket curServiceId },
        .client { c with currentGame := (c.currentGame.1, some serviceId) }
          (.switchTicket serviceId))
    else some (.silent, s, .client c .idle)
  | none =>
    some (.silent, { s with gameTracker := s.gameTracker.increaseCountTicket serviceId },
      .client { c with currentGame := (c.currentGame.1, some serviceId) } .idle)

/-- A request to the room manager. A leave goes through `Client::leave_room`. -/
def roomStep (c : Client) : RoomOp → Event × SharedData
  | .leaveRoom comId roomId userId random => s.leaveRoom i userId comId roomId random
  | op => s.callRoom i c.userId op

/-- **The first step of a request.** A connection that is not authenticated may only log in or
    delete an account. -/
def requestStep (c : Client) : Request → Step
  | .login login password token =>
    if c.authentified then none
    else
      match s.db.checkUser cfg.hashRaw login password token cfg.isEmailValidated with
      | .error _ => some (.silent, s, .gone)
      | .ok (userId, row) =>
        if row.banned then some (.silent, s, .gone)
        else some (.checked i userId, s, .client c (.login .checked userId login row))
  | .deleteAccount login password =>
    if c.authentified then none
    else
      match s.db.checkUser cfg.hashRaw login password "" false with
      | .error _ => some (.silent, s, .gone)
      | .ok (userId, row) =>
        some (.silent, s, .client c (.delete .checked userId login row.emailCheck))
  | .banUser username =>
    if c.authentified && c.admin then
      match s.db.getUserId username with
      | .error _ => some (.silent, s, .client c .idle)
      | .ok userId => some (.silent, s, .client c (.ban (.found userId)))
    else none
  | .delUser username =>
    if c.authentified && c.admin then
      match s.db.getUserId username with
      | .error _ => some (.silent, s, .client c .idle)
      | .ok userId => some (.silent, s, .client c (.delUser userId username))
    else none
  | .resetState =>
    if c.authentified then some (.silent, s, .client c (.resetState .start)) else none
  | .comId comId => if c.authentified then comIdStep cfg s c comId else none
  | .ticket serviceId => if c.authentified then ticketStep s c serviceId else none
  | .room op =>
    if c.authentified ∧ RoomOp.MadeBy c.clientInfo op then
      some ((roomStep s i c op).1, (roomStep s i c op).2, .client c .idle)
    else none
  | .gui op =>
    if c.authentified ∧ GuiOp.MadeBy c.clientInfo op ∧ op.Possible s.guiRoomManager then
      some ((s.callGui i c.userId op).1, (s.callGui i c.userId op).2, .client c .idle)
    else none

end Requests

/-! ## 4. The server -/

/-- Does the task hold `client_infos.write()`? -/
def Task.holds : Task → Bool
  | .client _ (.login .checked _ _ _) => false
  | .client _ (.login _ _ _ _) => true
  | .client _ (.delete .checked _ _ _) => false
  | .client _ (.delete _ _ _ _) => true
  | .cleaner .sleeping => false
  | .cleaner _ => true
  | _ => false

/-- The lock after the task stopped where it was. -/
def SharedData.letGo (s : SharedData) (t : Task) : SharedData := if t.holds then s.release else s

/-- A request ends before it is done. -/
def abortStep (s : SharedData) : Task → Step
  | .client _ (.login .published _ _ _) => none
  | t@(.client c (.login _ _ _ _)) => some (.silent, s.letGo t, c.resume)
  | .client c (.delUser _ _) => some (.silent, s, c.resume)
  | t@(.client c (.delete _ _ _ _)) => some (.silent, s.letGo t, c.resume)
  | .client c (.ban _) => some (.silent, s, c.resume)
  | .api _ => some (.silent, s, .api .answered)
  | t@(.cleaner _) => some (.silent, s.letGo t, .cleaner .sleeping)
  | _ => none

/-- `Drop for Client`, up to the spawn. -/
def dropClient (s : SharedData) (c : Client) : Step :=
  if c.authentified then
    some (.silent, { s with cleanupDuty := insert c.userId s.cleanupDuty },
      .cleanup { c with authentified := false } (.clean .start))
  else some (.silent, s, .gone)

def dropStep (s : SharedData) : Task → Step
  | .client c .idle => dropClient s c
  | .client c (.resetState _) => dropClient s c
  | _ => none

inductive SessionOp where
  | connect
  | apiBan (adminUsername adminPassword username : String)
  | request (i : Nat) (r : Request)
  | next (i : Nat) (ch : Choice)
  | abort (i : Nat)
  | drop (i : Nat)

def serve (cfg : Config) (p : Pool SharedData Task) :
    SessionOp → Option (Event × Pool SharedData Task)
  | .connect => some (.silent, p.spawn (.client Client.new .idle))
  | .apiBan adminUsername adminPassword username =>
    -- `AdminRequest::is_complete`
    if adminUsername = "" ∨ adminPassword = "" ∨ username = "" then none
    else some (.silent, p.spawn (.api (.received adminUsername adminPassword username)))
  | .request i r => p.act i fun s t =>
    match t with
    | .client c .idle => requestStep cfg s i c r
    | _ => none
  | .next i ch => p.act i fun s t => nextStep cfg ch s i t
  | .abort i => p.act i abortStep
  | .drop i => p.act i dropStep

/-- **The server over a database**: any number of connections, served in any order of their steps.
    The cleaner runs from the start. -/
def sessionSystem (cfg : Config) (db : Account.Database) :
    System (Pool SharedData Task) SessionOp Event :=
  .ofPartial ⟨.start db, [.cleaner .sleeping]⟩ (serve cfg)

end Rpcn.Session
