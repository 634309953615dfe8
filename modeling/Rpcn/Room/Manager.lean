/-
  File:      Rpcn/Room/Manager.lean
  Subject:   THE ROOM MANAGER (room_manager.rs, `RoomManager`): creating, joining and leaving.

  The arithmetic is that of a release build: `u16`, `u32` and `u64` operations wrap. A call that
  mutates a stored room runs on that room and writes it back however it ends (`onRoom`); what
  `create_room` builds before it stores the room is a local value.
-/
import Rpcn.Lib.HashMap
import Rpcn.Room.Slots

namespace Rpcn

open Lib Np2Structs
open Std (ExtTreeMap)

structure RoomManager where
  rooms : HashMap (ComId × UInt64) Room
  roomCnt : HashMap ComId UInt64
  worldRooms : HashMap (ComId × UInt32) (Finset UInt64)
  lobbyRooms : HashMap (ComId × UInt64) (Finset UInt64)
  userRooms : HashMap UserId (Finset (ComId × UInt64))

abbrev ManagerCall := Call ErrorType RoomPanic RoomManager

/-! ## 1. Creation -/

/-- The group part of `create_room`: the checks, the label and the count of the first group, and
    the creator's group id. -/
def Room.enterFirstGroup (req : CreateJoinRoomRequest) (room : Room) :
    Except ErrorType (Room × UInt8) :=
  match room.groupConfig with
  | [] =>
    if room.passwordSlotMask ≠ 0 ∧ room.roomPassword = none then .error .roomPasswordMissing
    else .ok (room, 0)
  | g :: gs =>
    if (room.groupConfig.map (·.slotNum)).sum ≠ room.maxSlot.toUInt32 then
      .error .roomGroupMaxSlotMismatch
    else if room.groupConfig.any (·.withPassword) ∧ room.roomPassword = none then
      .error .roomPasswordMissing
    else if req.joinRoomGroupLabel = [] then .error .roomGroupNoJoinLabel
    else
      match eightBytes req.joinRoomGroupLabel with
      | none => .error .malformed
      | some label =>
        -- an existing label must be the creator's, a missing one becomes it
        if g.label = some label ∨ g.label = none then
          .ok ({ room with
            groupConfig :=
              { g with label := some label, numMembers := g.numMembers + 1 } :: gs }, 1)
        else .error .malformed

/-- `create_room` names the creator's member id as the owner's, and gives the room its id. -/
def Room.claimedBy (room : Room) (owner : UInt16) (roomId : UInt64) (serverId : UInt16) : Room :=
  { room with owner, roomId, serverId }

namespace RoomManager

def new : RoomManager := ⟨∅, ∅, ∅, ∅, ∅⟩

def unfailingCreateRoom (roomId : UInt64) (comId : ComId) (room : Room) (cinfo : ClientInfo) :
    ManagerCall CreateRoomResponse := do
  Call.modify fun m =>
    if room.lobbyId = 0 then
      { m with worldRooms := m.worldRooms.addTo (comId, room.worldId) roomId }
    else
      { m with lobbyRooms := m.lobbyRooms.addTo (comId, room.lobbyId) roomId }
  Call.modify fun m =>
    { m with
      rooms := m.rooms.insert (comId, roomId) room
      userRooms := m.userRooms.addTo cinfo.userId (comId, roomId) }
  let internal ← Call.unwrap room.toRoomDataInternal .groupIndex
  return ⟨internal, room.toOptParam⟩

def creator (u : RoomUser) (cinfo : ClientInfo) (memberId : UInt16) (groupId : UInt8) : RoomUser :=
  { u with
    userId := cinfo.userId
    npid := cinfo.npid
    onlineName := cinfo.onlineName
    avatarUrl := cinfo.avatarUrl
    memberId
    flagAttr := roomMemberFlagAttrOwner
    groupId }

def createRoom (comId : ComId) (req : CreateJoinRoomRequest) (cinfo : ClientInfo)
    (serverId : UInt16) (signalingInfo : ClientSharedSignalingInfo) (now : UInt64) :
    ManagerCall CreateRoomResponse := do
  if req.maxSlot = 0 ∨ req.maxSlot > 64 then
    Call.fail .malformed
  else
    let room ← Call.ofExcept (Room.fromProtobuf req now)
    let roomUser ← Call.ofExcept (RoomUser.fromCreateJoinRoomRequest req signalingInfo now)
    let m ← Call.read
    let roomCnt := (m.roomCnt.get? comId).getD 0
    -- `entry(..).or_insert(0)`: the entry stays even if a group check fails below
    Call.write { m with roomCnt := m.roomCnt.insert comId roomCnt }
    let (memberId, room) ← Call.onLocal room (Room.occupySlot 1)
    let (room, groupId) ← Call.ofExcept
      ((room.claimedBy memberId (roomCnt + 1) serverId).enterFirstGroup req)
    Call.modify fun m => { m with roomCnt := m.roomCnt.insert comId (roomCnt + 1) }
    unfailingCreateRoom (roomCnt + 1) comId
      { room with users := room.users.insert memberId (creator roomUser cinfo memberId groupId) }
      cinfo

end RoomManager

/-! ## 2. Joining -/

namespace Room

def joiner (u : RoomUser) (cinfo : ClientInfo) (memberId : UInt16) (groupId : UInt8) : RoomUser :=
  { u with
    userId := cinfo.userId
    npid := cinfo.npid
    onlineName := cinfo.onlineName
    avatarUrl := cinfo.avatarUrl
    memberId
    groupId }

/-- The room with a member added, and the full flag set when that filled it. -/
def addUser (room : Room) (memberId : UInt16) (u : RoomUser) : Room :=
  let users := room.users.insert memberId u
  { room with
    users
    flagAttr :=
      if users.size = room.maxSlot.toNat then room.flagAttr ||| roomFlagAttrFull
      else room.flagAttr }

/-- `join_room` from `get_a_slot` to the insertion into `users`: the slot comes first, and only
    then the member data of the request is converted. The result is the new member id and the
    user ids present before. -/
def letInChecked (req : JoinRoomRequest) (cinfo : ClientInfo)
    (signalingInfo : ClientSharedSignalingInfo) (now : UInt64) (previous : Finset UserId) :
    RoomCall (UInt16 × Finset UserId) := do
  let (groupId, memberId) ←
    getASlot (eightBytes req.joinRoomGroupLabel) (eightBytes req.roomPassword)
  let roomUser ← Call.ofExcept (RoomUser.fromJoinRoomRequest req signalingInfo now)
  Call.modify (·.addUser memberId (joiner roomUser cinfo memberId groupId))
  return (memberId, previous)

/-- `join_room` up to the insertion into `users`. -/
def letIn (req : JoinRoomRequest) (cinfo : ClientInfo)
    (signalingInfo : ClientSharedSignalingInfo) (now : UInt64) :
    RoomCall (UInt16 × Finset UserId) := do
  let room ← Call.read
  if room.flagAttr &&& roomFlagAttrFull ≠ 0 then
    Call.fail .roomFull
  else if req.joinRoomGroupLabel ≠ [] ∧ req.joinRoomGroupLabel.length ≠ 8 then
    Call.fail .malformed
  else if req.roomPassword ≠ [] ∧ req.roomPassword.length ≠ 8 then
    Call.fail .malformed
  else
    letInChecked req cinfo signalingInfo now room.getRoomUserIds

structure JoinNotifications where
  noSignaling : Option (NotificationUserJoinedRoom × Finset UserId)
  localSignaling : Option (NotificationUserJoinedRoom × Finset UserId)
  publicSignalingIpv4 : Option (NotificationUserJoinedRoom × Finset UserId)
  publicSignalingIpv6 : Option (NotificationUserJoinedRoom × Finset UserId)
  signalingListReply : List (UInt16 × List UInt8 × UInt16)

/-- `add_to_notif_list`: the first recipient fixes the notification. -/
def addToNotifList (l : Option (NotificationUserJoinedRoom × Finset UserId))
    (notif : NotificationUserJoinedRoom) (toAdd : UserId) :
    Option (NotificationUserJoinedRoom × Finset UserId) :=
  match l with
  | none => some (notif, {toAdd})
  | some (n, ids) => some (n, insert toAdd ids)

/-- `build_notification` with an address. -/
def notifWith (roomId : UInt64) (updateInfo : RoomMemberUpdateInfo) (ip : List UInt8)
    (port : UInt16) : NotificationUserJoinedRoom :=
  ⟨roomId, updateInfo, some ⟨ip, Uint16.newFromValue port⟩⟩

/-- Introduce the joiner and `user` to each other: local addresses behind one public IPv4
    address, else IPv6 if both have one, else IPv4. -/
def pairWith (roomId : UInt64) (updateInfo : RoomMemberUpdateInfo)
    (sig : ClientSharedSignalingInfo) (n : JoinNotifications) (user : RoomUser) :
    JoinNotifications :=
  if user.signalingInfo.addrP2pIpv4.1 = sig.addrP2pIpv4.1 then
    { n with
      localSignaling := addToNotifList n.localSignaling
        (notifWith roomId updateInfo sig.localAddrP2p.toList 3658) user.userId
      signalingListReply := n.signalingListReply ++
        [(user.memberId, user.signalingInfo.localAddrP2p.toList, 3658)] }
  else
    match user.signalingInfo.addrP2pIpv6, sig.addrP2pIpv6 with
    | some userIpv6, some joinerIpv6 =>
      { n with
        publicSignalingIpv6 := addToNotifList n.publicSignalingIpv6
          (notifWith roomId updateInfo joinerIpv6.1.toList joinerIpv6.2) user.userId
        signalingListReply := n.signalingListReply ++
          [(user.memberId, userIpv6.1.toList, userIpv6.2)] }
    | _, _ =>
      { n with
        publicSignalingIpv4 := addToNotifList n.publicSignalingIpv4
          (notifWith roomId updateInfo sig.addrP2pIpv4.1.toList sig.addrP2pIpv4.2) user.userId
        signalingListReply := n.signalingListReply ++
          [(user.memberId, user.signalingInfo.addrP2pIpv4.1.toList,
            user.signalingInfo.addrP2pIpv4.2)] }

/-- The hub of a star: the member named, or the owner. -/
def hubOf (room : Room) (sigParam : SignalParam) : Option RoomUser :=
  room.users[if sigParam.hubMemberId = 0 then room.owner else sigParam.hubMemberId]?

/-- The signaling part of `join_room`, on the room with the joiner in it. -/
def joinNotifications (room : Room) (roomId : UInt64) (memberId : UInt16)
    (optData : Option PresenceOptionData) (sig : ClientSharedSignalingInfo)
    (previous : Finset UserId) : Except RoomPanic JoinNotifications := do
  let updateInfo ← (room.getRoomMemberUpdateInfo memberId .none optData).elim
    (throw .userMissing) pure
  let empty : JoinNotifications := ⟨none, none, none, none, []⟩
  match room.signalingParam with
  | none => return { empty with noSignaling := some (⟨roomId, updateInfo, none⟩, previous) }
  | some sigParam =>
    if sigParam.shouldSignal then
      match sigParam.sigType with
      | .signalingMesh =>
        let others := (room.users.toList.map (·.2)).filter (·.memberId ≠ memberId)
        return others.foldl (pairWith roomId updateInfo sig) empty
      | .signalingStar => do
        let hubUser ← (room.hubOf sigParam).elim (throw .hubMissing) pure
        return { pairWith roomId updateInfo sig empty hubUser with
          noSignaling :=
            some (⟨roomId, updateInfo, none⟩, previous.erase hubUser.userId) }
      | .signalingNone => throw .signalingType
    else
      return { empty with noSignaling := some (⟨roomId, updateInfo, none⟩, previous) }

end Room

structure JoinResult where
  reply : JoinRoomResponse
  notifications : List (Option (NotificationUserJoinedRoom × Finset UserId))

namespace RoomManager

def putRoom (key : ComId × UInt64) (room : Room) (m : RoomManager) : RoomManager :=
  { m with rooms := m.rooms.insert key room }

/-- Run a call on the room under `key`, which is `room`, in place. -/
def onRoom {α : Type} (key : ComId × UInt64) (room : Room) (c : RoomCall α) : ManagerCall α :=
  Call.within room (putRoom key) c

/-- The end of `join_room`, which only reads: the notifications and the reply. -/
def joinReply (comId : ComId) (req : JoinRoomRequest) (signalingInfo : ClientSharedSignalingInfo)
    (memberId : UInt16) (previous : Finset UserId) : ManagerCall JoinResult := do
  let m ← Call.read
  let room ← Call.unwrap (m.rooms.get? (comId, req.roomId)) .roomMissing
  let n ← Call.ofPanic
    (room.joinNotifications req.roomId memberId req.optData signalingInfo previous)
  let roomData ← Call.unwrap room.toRoomDataInternal .groupIndex
  let signalingData := n.signalingListReply.map fun (mid, ip, port) =>
    (⟨Uint16.newFromValue mid, some ⟨ip, Uint16.newFromValue port⟩⟩ : Matching2SignalingInfo)
  return ⟨⟨roomData, signalingData, room.toOptParam⟩,
    [n.noSignaling, n.localSignaling, n.publicSignalingIpv4, n.publicSignalingIpv6]⟩

def joinRoom (comId : ComId) (req : JoinRoomRequest) (cinfo : ClientInfo)
    (signalingInfo : ClientSharedSignalingInfo) (now : UInt64) : ManagerCall JoinResult := do
  let m ← Call.read
  let room ← Call.unwrap (m.rooms.get? (comId, req.roomId)) .roomMissing
  let (memberId, previous) ← onRoom (comId, req.roomId) room
    (Room.letIn req cinfo signalingInfo now)
  Call.modify fun m =>
    { m with userRooms := m.userRooms.addTo cinfo.userId (comId, room.roomId) }
  joinReply comId req signalingInfo memberId previous

/-- The part of `Client::req_join_room` under the manager's lock: `join_room` is called only on an
    existing room the user is not in. -/
def reqJoinRoom (comId : ComId) (req : JoinRoomRequest) (cinfo : ClientInfo)
    (signalingInfo : ClientSharedSignalingInfo) (now : UInt64) : ManagerCall JoinResult := do
  let m ← Call.read
  match m.rooms.get? (comId, req.roomId) with
  | none => Call.fail .roomMissing
  | some room =>
    if cinfo.userId ∈ room.getRoomUserIds then Call.fail .roomAlreadyJoined
    else joinRoom comId req cinfo signalingInfo now

end RoomManager

/-! ## 3. Leaving -/

namespace Room

/-- The `while let Some(s) = owner_succession.pop_front()` loop of `leave_room`: the successor
    found, and what is left of the list. -/
def popSuccessor (users : ExtTreeMap UInt16 RoomUser) : List UInt16 → Option UInt16 × List UInt16
  | [] => (none, [])
  | s :: rest => if users.contains s then (some s, rest) else popSuccessor users rest

/-- `room.owner = s` with the owner flag of the member. -/
def makeOwner (room : Room) (s : UInt16) : Room :=
  { room with
    owner := s
    users := room.users.modify s fun u =>
      { u with flagAttr := u.flagAttr ||| roomMemberFlagAttrOwner } }

/-- The succession of `leave_room`; the result is `found_successor`. -/
def succeedOwner (random : Nat) : RoomCall Bool := do
  let room ← Call.read
  let (successor, rest) := popSuccessor room.users room.ownerSuccession
  Call.modify fun r => { r with ownerSuccession := rest }
  match successor with
  | some s => do
    Call.modify (·.makeOwner s)
    return true
  | none =>
    if room.users.isEmpty then
      return false
    else do
      let s ← Call.unwrap (room.users.keys[random % room.users.size]?) .randomUser
      Call.modify (·.makeOwner s)
      return true

/-- A member of the group at an index leaves: the count goes down, and an assigned label is given
    up with the last member. -/
def leaveGroup (g : RoomGroupConfig) : RoomGroupConfig :=
  let n := g.numMembers - 1
  { g with numMembers := n, label := if n = 0 ∧ !g.fixedLabel then none else g.label }

/-- The group release of `leave_room`. -/
def releaseGroup (groupId : UInt8) : RoomCall Unit := do
  if groupId = 0 then
    return ()
  else
    let room ← Call.read
    let i := (groupId - 1).toNat
    let g ← Call.unwrap room.groupConfig[i]? .groupIndex
    Call.write { room with groupConfig := room.groupConfig.set i (leaveGroup g) }

/-- `leave_room` on the room: the member goes, its group and slot are released, and an owner is
    succeeded. The result is whether nobody was found to own the room, and who is left. -/
def release (userId : UserId) (random : Nat) : RoomCall (Bool × List UserId) := do
  let room ← Call.read
  let memberId := room.findUser userId
  Call.check (memberId != 0) .memberIdZero
  let member ← Call.unwrap room.users[memberId]? .userMissing
  Call.write { room with users := room.users.erase memberId }
  releaseGroup member.groupId
  let freed ← freeSlot memberId
  Call.unwrap freed .freeSlot
  Call.modify fun r =>
    { r with
      flagAttr :=
        if r.users.size ≠ r.maxSlot.toNat then r.flagAttr &&& ~~~roomFlagAttrFull
        else r.flagAttr }
  let room ← Call.read
  let userList := userIdsOf room.users
  if memberId = room.owner then
    let foundSuccessor ← succeedOwner random
    return (!foundSuccessor, userList)
  else
    return (false, userList)

end Room

namespace RoomManager

/-- `user_set.remove(..)` of `leave_room`: a key is taken off a user's list. -/
def withdraw (m : RoomManager) (userId : UserId) (key : ComId × UInt64) : RoomManager :=
  { m with userRooms := m.userRooms.dropFrom userId key }

/-- The destruction branch of `leave_room`. -/
def destroyRoom (key : ComId × UInt64) (worldId : UInt32) (lobbyId : UInt64)
    (userList : List UserId) : ManagerCall Unit := do
  userList.forM fun u => do
    let m ← Call.read
    let _ ← Call.unwrap (m.userRooms.get? u) .userRooms
    Call.write (m.withdraw u key)
  let m ← Call.read
  if lobbyId = 0 then
    let _ ← Call.unwrap (m.worldRooms.get? (key.1, worldId)) .worldRooms
    Call.write { m with worldRooms := m.worldRooms.dropFrom (key.1, worldId) key.2 }
  else
    let _ ← Call.unwrap (m.lobbyRooms.get? (key.1, lobbyId)) .lobbyRooms
    Call.write { m with lobbyRooms := m.lobbyRooms.dropFrom (key.1, lobbyId) key.2 }
  Call.modify fun m => { m with rooms := m.rooms.remove key }

/-- `RoomManager::leave_room`: whether the room was destroyed, and who is left in it. -/
def leaveRoom (comId : ComId) (roomId : UInt64) (userId : UserId) (random : Nat) :
    ManagerCall (Bool × Finset UserId) := do
  let m ← Call.read
  match m.rooms.get? (comId, roomId) with
  | none => Call.fail .roomMissing
  | some room =>
    if (comId, roomId) ∈ m.userRooms.setAt userId then
      Call.write (m.withdraw userId (comId, roomId))
      let (gone, userList) ← onRoom (comId, roomId) room (Room.release userId random)
      if gone then
        destroyRoom (comId, roomId) room.worldId room.lobbyId userList.dedup
        return (true, userList.toFinset)
      else
        return (false, userList.toFinset)
    else
      Call.fail .notFound

def getRoomsByUser (m : RoomManager) (user : UserId) : Option (Finset (ComId × UInt64)) :=
  m.userRooms.get? user

end RoomManager

end Rpcn
