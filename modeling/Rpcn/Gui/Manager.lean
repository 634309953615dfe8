/-
  File:      Rpcn/Gui/Manager.lean
  Subject:   THE GUI ROOM MANAGER: `GuiRoomManager` of gui_room_manager.rs, request by request.

  The manager stores its rooms three times: by id, by com id, and by member. What depends on the
  iteration order of a hash map or set, or on the random generator, takes that choice as an input:
  * `order` -- the order in which a search meets the rooms of a com id, or a leave the members left;
  * `random` -- the number drawn for the new owner.
-/
import Rpcn.Gui.Data
import Rpcn.Lib.Call
import Rpcn.Lib.Run

namespace Rpcn

open Lib Np2Structs

/-! ## 1. Room ids -/

def hexDigit (d : Nat) : UInt8 := if d < 10 then (0x30 + d).toUInt8 else (0x37 + d).toUInt8

/-- The last `width` hexadecimal digits of a number. -/
def hexDigits : Nat → Nat → List UInt8
  | 0, _ => []
  | width + 1, n => hexDigits width (n / 16) ++ [hexDigit (n % 16)]

/-- `format!("{}{:016X}", ..)`; a `u64` has no more than sixteen digits. -/
def roomIdBytes (comId : ComId) (curRoomId : UInt64) : List UInt8 :=
  comIdToString comId ++ hexDigits 16 curRoomId.toNat

/-- The id `generate_room_id` makes: none when the bytes do not fit the array. -/
def roomIdOf (comId : ComId) (curRoomId : UInt64) : Option GuiRoomId :=
  if h : (roomIdBytes comId curRoomId).length = 28 then
    some ⟨(roomIdBytes comId curRoomId).toArray, h⟩
  else none

/-! ## 2. The manager -/

structure GuiRoomManager where
  curRoomId : UInt64
  rooms : HashMap GuiRoomId GuiRoom
  comidRooms : HashMap ComId (Finset GuiRoomId)
  userRooms : HashMap UserId (Finset GuiRoomId)

inductive GuiPanic where
  /-- `try_into().unwrap()` of `generate_room_id`. -/
  | roomIdSize
  /-- `rooms.get(..).unwrap()`. -/
  | roomMissing
  /-- `user_rooms.get_mut(..).unwrap()`. -/
  | userRooms
  /-- `comid_rooms.get_mut(..).unwrap()`. -/
  | comidRooms
  /-- `assert!` of `add_member_to_room`. -/
  | alreadyMember
  /-- `assert!(comid_rooms...remove(..))`. -/
  | notFiled
  /-- `assert!(rooms.remove(..).is_some())`. -/
  | notStored
  /-- `nth(..).unwrap()` and `members.get_mut(..).unwrap()` of the new owner. -/
  | newOwner
  deriving DecidableEq, Repr

inductive GuiNotification where
  | memberLeftRoomGUI
  | roomDisappearedGUI
  | roomOwnerChangedGUI
  deriving DecidableEq, Repr

abbrev GuiCall := Call ErrorType GuiPanic GuiRoomManager

namespace GuiRoomManager

def new : GuiRoomManager := ⟨1, ∅, ∅, ∅⟩

def pbVecToRoomId (pbVec : List UInt8) : Except ErrorType GuiRoomId :=
  if h : pbVec.length = 28 then .ok ⟨pbVec.toArray, h⟩ else .error .malformed

def putRoom (m : GuiRoomManager) (roomId : GuiRoomId) (room : GuiRoom) : GuiRoomManager :=
  { m with rooms := m.rooms.insert roomId room }

/-- `generate_room_id`: the counter advances only when the id was made. -/
def generateRoomId (comId : ComId) : GuiCall GuiRoomId := do
  let m ← Call.read
  let roomId ← Call.unwrap (roomIdOf comId m.curRoomId) .roomIdSize
  Call.write { m with curRoomId := m.curRoomId + 1 }
  return roomId

def insertRoom (comId : ComId) (roomId : GuiRoomId) (room : GuiRoom) : GuiCall Unit :=
  Call.modify fun m =>
    { m.putRoom roomId room with comidRooms := m.comidRooms.addTo comId roomId }

/-- `add_member_to_room`: the member is added first, and then it is asserted that the room was not
    on the user's list. -/
def addMemberToRoom (roomId : GuiRoomId) (cinfo : ClientInfo) (owner : Bool) : GuiCall Unit := do
  let m ← Call.read
  let room ← Call.unwrap (m.rooms.get? roomId) .roomMissing
  Call.write { m.putRoom roomId (room.addMember cinfo owner) with
    userRooms := m.userRooms.addTo cinfo.userId roomId }
  Call.check (roomId ∉ m.userRooms.setAt cinfo.userId) .alreadyMember

/-- The search through the rooms of a com id, in the order they are met. -/
def findRoom (m : GuiRoomManager) (p : GuiRoom → Bool) :
    List GuiRoomId → Except GuiPanic (Option GuiRoomId)
  | [] => .ok none
  | roomId :: rest =>
    match m.rooms.get? roomId with
    | none => .error .roomMissing
    | some room => if p room then .ok (some roomId) else m.findRoom p rest

/-- The search under a com id that may have no rooms at all. -/
def searchRooms (m : GuiRoomManager) (comId : ComId) (p : GuiRoom → Bool)
    (order : List GuiRoomId) : Except GuiPanic (Option GuiRoomId) :=
  match m.comidRooms.get? comId with
  | none => .ok none
  | some _ => m.findRoom p order

/-! ### Admission -/

def openRoom (comId : ComId) (room : GuiRoom) (cinfo : ClientInfo) : GuiCall GuiRoomId := do
  let roomId ← generateRoomId comId
  insertRoom comId roomId room
  addMemberToRoom roomId cinfo true
  return roomId

/-- The first half of `quickmatch_gui`: into the room found, or into a new one. -/
def enterQuickmatch (comId : ComId) (req : QuickMatchGuiRequest) (cinfo : ClientInfo) :
    Option GuiRoomId → GuiCall GuiRoomId
  | some roomId => do
    addMemberToRoom roomId cinfo false
    return roomId
  | none => openRoom comId (GuiRoom.fromQuickmatchProtobuf req comId) cinfo

/-- The second half: a complete room is hidden, and its other members are told. -/
def completeQuickmatch (roomId : GuiRoomId) (cinfo : ClientInfo) :
    GuiCall (Option (Finset UserId × MatchingRoomStatus)) := do
  let m ← Call.read
  let room ← Call.unwrap (m.rooms.get? roomId) .roomMissing
  if room.members.len = room.totalSlots.toNat then do
    Call.write (m.putRoom roomId { room with stealth := true })
    return some (room.members.keys.erase cinfo.userId,
      room.genMatchingRoomStatus roomId none none)
  else
    return none

def quickmatchGui (comId : ComId) (req : QuickMatchGuiRequest) (cinfo : ClientInfo)
    (order : List GuiRoomId) :
    GuiCall (MatchingGuiRoomId × Option (Finset UserId × MatchingRoomStatus)) := do
  let m ← Call.read
  let found ← Call.ofPanic (m.searchRooms comId (·.isQuickmatch req) order)
  let roomId ← enterQuickmatch comId req cinfo found
  let notificationInfos ← completeQuickmatch roomId cinfo
  return (⟨roomId.toList⟩, notificationInfos)

/-- The room as it is now; the callers hold a reference to it. -/
def readRoom (roomId : GuiRoomId) : GuiCall GuiRoom := do
  let m ← Call.read
  Call.unwrap (m.rooms.get? roomId) .roomMissing

def createRoomGui (comId : ComId) (req : CreateRoomGuiRequest) (cinfo : ClientInfo) :
    GuiCall MatchingRoomStatus := do
  let roomId ← openRoom comId (GuiRoom.fromProtobuf req comId) cinfo
  let room ← readRoom roomId
  return room.genMatchingRoomStatus roomId none none

def roomOrMissing (m : GuiRoomManager) (roomId : GuiRoomId) : Except ErrorType GuiRoom :=
  match m.rooms.get? roomId with
  | some room => .ok room
  | none => .error .roomMissing

def joinRoomGui (roomId : GuiRoomId) (cinfo : ClientInfo) :
    GuiCall (MatchingRoomStatus × Finset UserId × MatchingRoomStatus) := do
  let m ← Call.read
  let room ← Call.ofExcept (m.roomOrMissing roomId)
  if room.members.len = room.totalSlots.toNat then
    Call.fail .roomFull
  else if cinfo.userId ∈ room.members.keys then
    Call.fail .roomAlreadyJoined
  else do
    addMemberToRoom roomId cinfo false
    let room' ← readRoom roomId
    return (room'.genMatchingRoomStatus roomId none none, room.members.keys,
      room'.genMatchingRoomStatus roomId (some cinfo.userId) none)

/-- The reply of `search_join_gui`, after the search. -/
def searchJoinFound (req : SearchJoinRoomGuiRequest) (cinfo : ClientInfo) :
    Option GuiRoomId →
      GuiCall (MatchingSearchJoinRoomInfo × Finset UserId × MatchingRoomStatus)
  | none => Call.fail .notFound
  | some roomId => do
    let room ← readRoom roomId
    addMemberToRoom roomId cinfo false
    let room' ← readRoom roomId
    return (room'.genMatchingSearchJoinRoomInfo roomId none none req.attrs, room.members.keys,
      room'.genMatchingRoomStatus roomId (some cinfo.userId) none)

def searchJoinGui (comId : ComId) (req : SearchJoinRoomGuiRequest) (cinfo : ClientInfo)
    (order : List GuiRoomId) :
    GuiCall (MatchingSearchJoinRoomInfo × Finset UserId × MatchingRoomStatus) := do
  let m ← Call.read
  let found ← Call.ofPanic (m.searchRooms comId (·.isMatch req.conds true) order)
  searchJoinFound req cinfo found

/-! ### Leaving -/

def dropUserRoom (roomId : GuiRoomId) (userId : UserId) : GuiCall Unit := do
  let m ← Call.read
  let _ ← Call.unwrap (m.userRooms.get? userId) .userRooms
  Call.write { m with userRooms := m.userRooms.dropFrom userId roomId }

def removeRoom (comId : ComId) (roomId : GuiRoomId) : GuiCall Unit := do
  let m ← Call.read
  let filed ← Call.unwrap (m.comidRooms.get? comId) .comidRooms
  Call.write { m with comidRooms := m.comidRooms.dropFrom comId roomId }
  Call.check (roomId ∈ filed) .notFiled
  Call.modify fun m => { m with rooms := m.rooms.remove roomId }
  Call.check (m.rooms.get? roomId).isSome .notStored

abbrev LeaveReply := MatchingRoomStatus × Finset UserId × List (GuiNotification × MatchingRoomStatus)

/-- An owner without `privilege_grant` left: the room disappears under the others. -/
def disappear (roomId : GuiRoomId) (room : GuiRoom) (order : List UserId) : GuiCall LeaveReply := do
  order.forM (dropUserRoom roomId)
  removeRoom room.communicationId roomId
  return (room.genMatchingRoomStatus roomId (some 0) none, room.members.keys,
    [(.roomDisappearedGUI, room.genMatchingRoomStatus roomId (some 0) none)])

def grantOwner (room : GuiRoom) (userId : UserId) (member : GuiRoomMember) : GuiRoom :=
  { room with members := room.members.insert userId { member with owner := true } }

/-- The owner's part of a leave, with `privilege_grant`: one of the members left, drawn at random,
    is the new owner. -/
def handOver (roomId : GuiRoomId) (room : GuiRoom) (memberLeft : GuiRoomMember)
    (order : List UserId) (random : Nat) : GuiCall LeaveReply := do
  let newOwner ← Call.unwrap order[random % order.length]? .newOwner
  let member ← Call.unwrap (room.members.get? newOwner) .newOwner
  let room' := grantOwner room newOwner member
  Call.modify (·.putRoom roomId room')
  return (room.genMatchingRoomStatus roomId (some 0) none, room.members.keys,
    [(.roomOwnerChangedGUI, room'.genMatchingRoomStatus roomId (some newOwner) (some memberLeft)),
      (.memberLeftRoomGUI, room'.genMatchingRoomStatus roomId (some 0) (some memberLeft))])

/-- `leave_room_gui` after the member was removed: `room` is the room without it. -/
def afterLeave (roomId : GuiRoomId) (room : GuiRoom) (memberLeft : GuiRoomMember)
    (order : List UserId) (random : Nat) : GuiCall LeaveReply :=
  if room.members.len = 0 then do
    removeRoom room.communicationId roomId
    return (room.genMatchingRoomStatus roomId (some 0) none, ∅, [])
  else if memberLeft.owner then
    if !room.privilegeGrant then disappear roomId room order
    else handOver roomId room { memberLeft with owner := false } order random
  else
    return (room.genMatchingRoomStatus roomId (some 0) none, room.members.keys,
      [(.memberLeftRoomGUI, room.genMatchingRoomStatus roomId (some 0) (some memberLeft))])

/-- The member record of a user, or `NotFound`. -/
def memberOrNotFound (room : GuiRoom) (userId : UserId) : Except ErrorType GuiRoomMember :=
  match room.members.get? userId with
  | some member => .ok member
  | none => .error .notFound

/-- `GuiRoomManager::leave_room_gui`. Removing a user who is not a member changes nothing, so the
    test comes first here. -/
def leaveRoomGui (roomId : GuiRoomId) (cinfo : ClientInfo) (order : List UserId) (random : Nat) :
    GuiCall LeaveReply := do
  let m ← Call.read
  let room ← Call.ofExcept (m.roomOrMissing roomId)
  let memberLeft ← Call.ofExcept (memberOrNotFound room cinfo.userId)
  let room' := { room with members := room.members.remove cinfo.userId }
  Call.write (m.putRoom roomId room')
  dropUserRoom roomId cinfo.userId
  afterLeave roomId room' memberLeft order random

/-! ### Attributes and flags -/

def getRoomAndCheckOwnership (m : GuiRoomManager) (roomId : GuiRoomId) (reqUserId : UserId) :
    Except ErrorType GuiRoom := do
  let room ← m.roomOrMissing roomId
  let member ← memberOrNotFound room reqUserId
  if !member.owner then .error .unauthorized else .ok room

/-- `GuiRoomManager::set_search_flag`: the flag of a quick match room stays as it is. -/
def setSearchFlag (roomId : GuiRoomId) (stealth : Bool) (reqUserId : UserId) : GuiCall Unit := do
  let m ← Call.read
  let room ← Call.ofExcept (m.getRoomAndCheckOwnership roomId reqUserId)
  Call.write (m.putRoom roomId
    { room with stealth := if room.quickmatchRoom then room.stealth else stealth })

def setRoomInfoGui (roomId : GuiRoomId) (attrs : List MatchingAttr) (reqUserId : UserId) :
    GuiCall Unit := do
  let m ← Call.read
  let room ← Call.ofExcept (m.getRoomAndCheckOwnership roomId reqUserId)
  Call.write (m.putRoom roomId (attrs.foldl GuiRoom.setAttr room))

def getSearchFlag (m : GuiRoomManager) (roomId : GuiRoomId) : Except ErrorType MatchingRoom :=
  match m.rooms.get? roomId with
  | some room => .ok (room.genMatchingRoom roomId
      [(matchingAttrTypeBasicNum, matchingRoomAttrIdRoomSearchFlag)])
  | none => .error .notFound

def getRoomInfoGui (m : GuiRoomManager) (roomId : GuiRoomId) (attrs : List MatchingAttr) :
    Except ErrorType MatchingRoom := do
  let room ← m.roomOrMissing roomId
  return room.genMatchingRoom roomId (GuiRoom.parsedAttrs attrs)

def getRoomsByUser (m : GuiRoomManager) (user : UserId) : Option (Finset GuiRoomId) :=
  m.userRooms.get? user

/-- The rooms of a list that match, each with its id. -/
def matchingRooms (m : GuiRoomManager) (conds : List MatchingSearchCondition) :
    List GuiRoomId → Except GuiPanic (List (GuiRoomId × GuiRoom))
  | [] => .ok []
  | roomId :: rest =>
    match m.rooms.get? roomId with
    | none => .error .roomMissing
    | some room => do
      let found ← m.matchingRooms conds rest
      return if room.isMatch conds false then (roomId, room) :: found else found

def getRoomListGui (m : GuiRoomManager) (comId : ComId) (req : GetRoomListGuiRequest)
    (order : List GuiRoomId) : Except GuiPanic MatchingRoomList := do
  let rangeStart := if req.rangeStart = 0 then 1 else req.rangeStart
  let rangeMax := if req.rangeMax = 0 ∨ req.rangeMax > 20 then 20 else req.rangeMax
  let found ← match m.comidRooms.get? comId with
    | none => .ok []
    | some _ => m.matchingRooms req.conds order
  let page :=
    if found.length ≥ rangeStart.toNat then
      (found.drop (rangeStart.toNat - 1)).take rangeMax.toNat
    else []
  return ⟨rangeStart, found.length.toUInt32,
    page.map fun p => p.2.genMatchingRoom p.1 (GuiRoom.parsedAttrs req.attrs)⟩

end GuiRoomManager

/-! ## 3. The component -/

inductive GuiOp where
  | createRoomGui (comId : ComId) (req : CreateRoomGuiRequest) (cinfo : ClientInfo)
  | joinRoomGui (roomId : GuiRoomId) (cinfo : ClientInfo)
  | leaveRoomGui (roomId : GuiRoomId) (cinfo : ClientInfo) (order : List UserId) (random : Nat)
  | quickmatchGui (comId : ComId) (req : QuickMatchGuiRequest) (cinfo : ClientInfo)
      (order : List GuiRoomId)
  | searchJoinGui (comId : ComId) (req : SearchJoinRoomGuiRequest) (cinfo : ClientInfo)
      (order : List GuiRoomId)
  | setSearchFlag (roomId : GuiRoomId) (stealth : Bool) (reqUserId : UserId)
  | setRoomInfoGui (roomId : GuiRoomId) (attrs : List MatchingAttr) (reqUserId : UserId)
  | getRoomListGui (comId : ComId) (req : GetRoomListGuiRequest) (order : List GuiRoomId)
  | getSearchFlag (roomId : GuiRoomId)
  | getRoomInfoGui (roomId : GuiRoomId) (attrs : List MatchingAttr)

inductive GuiReply where
  | created (status : MatchingRoomStatus)
  | joined (r : MatchingRoomStatus × Finset UserId × MatchingRoomStatus)
  | left (r : GuiRoomManager.LeaveReply)
  | matched (r : MatchingGuiRoomId × Option (Finset UserId × MatchingRoomStatus))
  | searched (r : MatchingSearchJoinRoomInfo × Finset UserId × MatchingRoomStatus)
  | flagSet
  | infoSet
  | listed (r : MatchingRoomList)
  | shown (r : MatchingRoom)

abbrev GuiOutcome := Outcome ErrorType GuiPanic GuiReply

def GuiRoomManager.look {α : Type} (f : GuiRoomManager → Except ErrorType α) : GuiCall α := do
  let m ← Call.read
  Call.ofExcept (f m)

def GuiOp.call : GuiOp → GuiCall GuiReply
  | .createRoomGui comId req cinfo =>
    Call.mapOk .created (GuiRoomManager.createRoomGui comId req cinfo)
  | .joinRoomGui roomId cinfo => Call.mapOk .joined (GuiRoomManager.joinRoomGui roomId cinfo)
  | .leaveRoomGui roomId cinfo order random =>
    Call.mapOk .left (GuiRoomManager.leaveRoomGui roomId cinfo order random)
  | .quickmatchGui comId req cinfo order =>
    Call.mapOk .matched (GuiRoomManager.quickmatchGui comId req cinfo order)
  | .searchJoinGui comId req cinfo order =>
    Call.mapOk .searched (GuiRoomManager.searchJoinGui comId req cinfo order)
  | .setSearchFlag roomId stealth reqUserId =>
    Call.mapOk (fun _ => .flagSet) (GuiRoomManager.setSearchFlag roomId stealth reqUserId)
  | .setRoomInfoGui roomId attrs reqUserId =>
    Call.mapOk (fun _ => .infoSet) (GuiRoomManager.setRoomInfoGui roomId attrs reqUserId)
  | .getRoomListGui comId req order => do
    let m ← Call.read
    let r ← Call.ofPanic (m.getRoomListGui comId req order)
    return .listed r
  | .getSearchFlag roomId =>
    Call.mapOk .shown (GuiRoomManager.look (·.getSearchFlag roomId))
  | .getRoomInfoGui roomId attrs =>
    Call.mapOk .shown (GuiRoomManager.look (·.getRoomInfoGui roomId attrs))

def Orders {A : Type} [DecidableEq A] (order : List A) (s : Finset A) : Prop :=
  order.Nodup ∧ order.toFinset = s

instance {A : Type} [DecidableEq A] (order : List A) (s : Finset A) : Decidable (Orders order s) :=
  inferInstanceAs (Decidable (order.Nodup ∧ order.toFinset = s))

/-- The choices that can be made: an iteration meets each element once. -/
def GuiOp.Possible (m : GuiRoomManager) : GuiOp → Prop
  | .quickmatchGui comId _ _ order => Orders order (m.comidRooms.setAt comId)
  | .searchJoinGui comId _ _ order => Orders order (m.comidRooms.setAt comId)
  | .getRoomListGui comId _ order => Orders order (m.comidRooms.setAt comId)
  | .leaveRoomGui roomId cinfo order _ => ∀ room, m.rooms.get? roomId = some room →
      Orders order (room.members.keys.erase cinfo.userId)
  | _ => True

instance (m : GuiRoomManager) (op : GuiOp) : Decidable (op.Possible m) := by
  cases op with
  | leaveRoomGui roomId cinfo order random =>
    exact inferInstanceAs (Decidable (∀ room ∈ m.rooms.get? roomId,
      Orders order (room.members.keys.erase cinfo.userId)))
  | _ => unfold GuiOp.Possible; infer_instance

/-- The id a request generates, if it opens a room. -/
def GuiOp.generated (m : GuiRoomManager) : GuiOp → Option GuiRoomId
  | .createRoomGui comId _ _ => roomIdOf comId m.curRoomId
  | .quickmatchGui comId req _ order =>
    match m.searchRooms comId (·.isQuickmatch req) order with
    | .ok none => roomIdOf comId m.curRoomId
    | _ => none
  | _ => none

/-- **The GUI room manager behind its lock.** A step also tells which room id it generated. -/
def guiSystem : System GuiRoomManager GuiOp (GuiOutcome × Option GuiRoomId) where
  init := GuiRoomManager.new
  enabled := GuiOp.Possible
  step m op := (((op.call m).1, op.generated m), (op.call m).2)

end Rpcn
