/-
  File:      Rpcn/Room/Setters.lean
  Subject:   THE THREE SETTERS of the room manager, and the component as a system of requests.

  The setters write while they read: an attribute that does not convert ends the call with an
  error after the attributes before it were stored.
-/
import Rpcn.Lib.Run
import Rpcn.Room.Manager

namespace Rpcn

open Lib Np2Structs
open Std (ExtTreeMap)

namespace Room

/-! ## 1. `set_roomdata_external` -/

def setExternal (req : SetRoomDataExternalRequest) (userId : UserId) : RoomCall Unit := do
  let room ← Call.read
  let memberId ← Call.ofExcept (room.getMemberId userId)
  if room.owner ≠ memberId then
    Call.fail .unauthorized
  else
    req.roomBinAttrExternal.forM fun p => do
      let a ← Call.ofExcept (RoomBinAttr.fromProtobuf p)
      Call.modify fun r => { r with
        binAttrExternal :=
          storeAttr roomBinAttrExternal1Id roomBinAttrExternal2Id a.id a r.binAttrExternal }
    req.roomSearchableBinAttrExternal.forM fun p => do
      let a ← Call.ofExcept (RoomBinAttr.fromProtobuf p)
      Call.modify fun r =>
        if a.id ≠ roomSearchableBinAttrExternal1Id then r else { r with searchBinAttr := a }
    req.roomSearchableIntAttrExternal.forM fun p => do
      let a ← Call.ofExcept (RoomIntAttr.fromProtobuf p)
      Call.modify fun r => { r with
        searchIntAttr := storeAttr roomSearchableIntAttrExternal1Id
          roomSearchableIntAttrExternal8Id a.id a r.searchIntAttr }

/-! ## 2. `set_roomdata_internal` -/

/-- The `password_config` loop: an id above the number of groups is skipped, and id 0 indexes
    position 255, since `group_id - 1` wraps. The result is the list of groups that changed. -/
def setPasswordConfig (newGroups : List UInt8) (gc : RoomGroupPasswordConfig) :
    RoomCall (List UInt8) := do
  let groupId ← Call.ofExcept (Uint8.getVerifiedOpt gc.groupId)
  let room ← Call.read
  if groupId.toNat > room.groupConfig.length then
    return newGroups
  else
    let i := (groupId - 1).toNat
    let g ← Call.unwrap room.groupConfig[i]? .groupIndex
    if g.withPassword ≠ gc.withPassword then
      Call.modify fun r => { r with
        groupConfig := r.groupConfig.modify i fun g =>
          { g with withPassword := gc.withPassword } }
      return newGroups ++ [groupId]
    else
      return newGroups

/-- The flags of `set_roomdata_internal`: the filtered bits, but never a protected one. -/
def setFlagAttr (req : SetRoomDataInternalRequest) : RoomCall Bool := do
  let room ← Call.read
  let flagFilter := req.flagFilter &&& ~~~protectedRoomFlags
  let flagAttr := req.flagAttr &&& ~~~protectedRoomFlags
  let newFlagAttr := (flagAttr &&& flagFilter) ||| (room.flagAttr &&& ~~~flagFilter)
  if newFlagAttr ≠ room.flagAttr then
    Call.modify fun r => { r with flagAttr := newFlagAttr }
    return true
  else
    return false

/-- The slot mask of `set_roomdata_internal`: a list of one mask is a mask. -/
def setPasswordSlotMask (req : SetRoomDataInternalRequest) : RoomCall Bool := do
  let room ← Call.read
  match req.passwordSlotMask with
  | [mask] =>
    if mask ≠ room.passwordSlotMask then
      Call.modify fun r => { r with passwordSlotMask := mask }
      return true
    else
      return false
  | _ => return false

/-- The succession list of `set_roomdata_internal`: any verified ids, members or not. -/
def setOwnerSuccession (req : SetRoomDataInternalRequest) : RoomCall Bool :=
  if req.ownerPrivilegeRank = [] then
    return false
  else do
    let succession ← Call.ofExcept (req.ownerPrivilegeRank.mapM (·.getVerified))
    let room ← Call.read
    if succession ≠ room.ownerSuccession then
      Call.modify fun r => { r with ownerSuccession := succession }
      return true
    else
      return false

/-- The owner's part of `set_roomdata_internal`: whether something changed, and the groups whose
    password flag did. -/
def setInternalAsOwner (req : SetRoomDataInternalRequest) : RoomCall (Bool × List UInt8) := do
  let flagChanged ← setFlagAttr req
  let newGroups ← req.passwordConfig.foldlM setPasswordConfig []
  let maskChanged ← setPasswordSlotMask req
  let successionChanged ← setOwnerSuccession req
  return (flagChanged || newGroups != [] || maskChanged || successionChanged, newGroups)

/-- One round of the attribute loop of `set_roomdata_internal`; the result is the ids set so far. -/
def setBinAttrInternal (memberId : UInt16) (now : UInt64) (ids : List Uint16) (p : BinAttr) :
    RoomCall (List Uint16) := do
  let a ← Call.ofExcept (RoomBinAttrInternal.fromProtobuf p memberId now)
  if a.data.id ≠ roomBinAttrInternal1Id ∧ a.data.id ≠ roomBinAttrInternal2Id then
    return ids
  else
    Call.modify fun r => { r with
      binAttrInternal := storeAttr roomBinAttrInternal1Id roomBinAttrInternal2Id a.data.id a
        r.binAttrInternal }
    return ids ++ [⟨a.data.id.toUInt32⟩]

/-- `set_roomdata_internal` on the room; `none` when nothing changed. -/
def setInternal (req : SetRoomDataInternalRequest) (userId : UserId) (now : UInt64) :
    RoomCall (Option (Finset UserId × RoomDataInternalUpdateInfo)) := do
  let room ← Call.read
  let memberId ← Call.ofExcept (room.getMemberId userId)
  let (ownerChanged, newGroups) ←
    (if room.owner = memberId then setInternalAsOwner req else return (false, []))
  let newAttrs ← req.roomBinAttrInternal.foldlM (setBinAttrInternal memberId now) []
  if ownerChanged || newAttrs != [] then
    let r ← Call.read
    let data ← Call.unwrap r.toRoomDataInternal .groupIndex
    return some (r.getRoomUserIds.erase userId,
      ⟨data, room.flagAttr, room.passwordSlotMask, newGroups, newAttrs⟩)
  else
    return none

/-! ## 3. `set_roommemberdata_internal` -/

def putUser (room : Room) (memberId : UInt16) (u : RoomUser) : Room :=
  { room with users := room.users.insert memberId u }

/-- The member attribute of `set_roommemberdata_internal`; the result is the ids set. -/
def setMemberAttr (attrs : List BinAttr) (target : UInt16) (user : RoomUser) (now : UInt64) :
    RoomCall (List Uint16) :=
  match attrs with
  | [p] => do
    let a ← Call.ofExcept (RoomMemberBinAttr.fromProtobuf p now)
    if a.data.id = roomMemberBinAttrInternal1Id then
      Call.modify (·.putUser target { user with memberAttr := a })
      return [⟨a.data.id.toUInt32⟩]
    else
      return []
  | _ => return []

/-- `set_roommemberdata_internal` on the member `user` with id `target`. -/
def setMemberData (req : SetRoomMemberDataInternalRequest) (userId : UserId) (now : UInt64)
    (target : UInt16) (user : RoomUser) :
    RoomCall (Option (Finset UserId × RoomMemberDataInternalUpdateInfo)) := do
  let teamId ← Call.ofExcept (Uint8.getVerifiedOpt req.teamId)
  let teamChanged := teamId != 0 && user.teamId != teamId
  let user' := { user with teamId := if teamChanged then teamId else user.teamId }
  Call.modify (·.putUser target user')
  let newAttrs ← setMemberAttr req.roomMemberBinAttrInternal target user' now
  if teamChanged || newAttrs != [] then
    let r ← Call.read
    let u ← Call.unwrap r.users[target]? .userMissing
    let data ← Call.unwrap (r.toRoomMemberDataInternal u) .groupIndex
    return some (r.getRoomUserIds.erase userId,
      ⟨data, u.flagAttr, Uint8.newFromValue user.teamId, newAttrs⟩)
  else
    return none

/-- `set_roommemberdata_internal` on the room; `none` when nothing changed. -/
def setMember (req : SetRoomMemberDataInternalRequest) (userId : UserId) (now : UInt64) :
    RoomCall (Option (Finset UserId × RoomMemberDataInternalUpdateInfo)) := do
  let room ← Call.read
  let memberId ← Call.ofExcept (room.getMemberId userId)
  let reqMemberId ← Call.ofExcept (Uint16.getVerifiedOpt req.memberId)
  let target := if reqMemberId = 0 then memberId else reqMemberId
  if memberId ≠ target ∧ memberId ≠ room.owner then
    Call.fail .unauthorized
  else
    match room.users[target]? with
    | none => Call.fail .notFound
    | some user => setMemberData req userId now target user

end Room

namespace RoomManager

/-- The three setters find the room or answer `RoomMissing`, and then work on it. -/
def setOn {α : Type} (comId : ComId) (roomId : UInt64) (c : RoomCall α) : ManagerCall α := do
  let m ← Call.read
  match m.rooms.get? (comId, roomId) with
  | none => Call.fail .roomMissing
  | some room => onRoom (comId, roomId) room c

def setRoomdataExternal (comId : ComId) (req : SetRoomDataExternalRequest) (userId : UserId) :
    ManagerCall Unit :=
  setOn comId req.roomId (Room.setExternal req userId)

def setRoomdataInternal (comId : ComId) (req : SetRoomDataInternalRequest) (userId : UserId)
    (now : UInt64) : ManagerCall (Option (Finset UserId × RoomDataInternalUpdateInfo)) :=
  setOn comId req.roomId (Room.setInternal req userId now)

def setRoommemberdataInternal (comId : ComId) (req : SetRoomMemberDataInternalRequest)
    (userId : UserId) (now : UInt64) :
    ManagerCall (Option (Finset UserId × RoomMemberDataInternalUpdateInfo)) :=
  setOn comId req.roomId (Room.setMember req userId now)

end RoomManager

/-! ## 4. The component -/

inductive RoomOp where
  | createRoom (comId : ComId) (req : CreateJoinRoomRequest) (cinfo : ClientInfo)
      (serverId : UInt16) (sig : ClientSharedSignalingInfo) (now : UInt64)
  | joinRoom (comId : ComId) (req : JoinRoomRequest) (cinfo : ClientInfo)
      (sig : ClientSharedSignalingInfo) (now : UInt64)
  | leaveRoom (comId : ComId) (roomId : UInt64) (userId : UserId) (random : Nat)
  | setRoomdataExternal (comId : ComId) (req : SetRoomDataExternalRequest) (userId : UserId)
  | setRoomdataInternal (comId : ComId) (req : SetRoomDataInternalRequest) (userId : UserId)
      (now : UInt64)
  | setRoommemberdataInternal (comId : ComId) (req : SetRoomMemberDataInternalRequest)
      (userId : UserId) (now : UInt64)

inductive RoomReply where
  | created (r : CreateRoomResponse)
  | joined (r : JoinResult)
  | left (destroyed : Bool) (users : Finset UserId)
  | externalSet
  | internalSet (r : Option (Finset UserId × RoomDataInternalUpdateInfo))
  | memberSet (r : Option (Finset UserId × RoomMemberDataInternalUpdateInfo))

abbrev RoomOutcome := Outcome ErrorType RoomPanic RoomReply

def RoomOp.call : RoomOp → ManagerCall RoomReply
  | .createRoom comId req cinfo serverId sig now =>
    Call.mapOk .created (RoomManager.createRoom comId req cinfo serverId sig now)
  | .joinRoom comId req cinfo sig now =>
    Call.mapOk .joined (RoomManager.reqJoinRoom comId req cinfo sig now)
  | .leaveRoom comId roomId userId random =>
    Call.mapOk (fun r => .left r.1 r.2) (RoomManager.leaveRoom comId roomId userId random)
  | .setRoomdataExternal comId req userId =>
    Call.mapOk (fun _ => .externalSet) (RoomManager.setRoomdataExternal comId req userId)
  | .setRoomdataInternal comId req userId now =>
    Call.mapOk .internalSet (RoomManager.setRoomdataInternal comId req userId now)
  | .setRoommemberdataInternal comId req userId now =>
    Call.mapOk .memberSet (RoomManager.setRoommemberdataInternal comId req userId now)

/-- **The room manager behind its lock**: any request in any state, one at a time. The state after
    a request that failed or panicked is the state it left (a `parking_lot` lock is not
    poisoned). -/
def roomSystem : System RoomManager RoomOp RoomOutcome where
  init := RoomManager.new
  enabled _ _ := True
  step m op := op.call m

end Rpcn
