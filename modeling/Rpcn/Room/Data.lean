/-
  File:      Rpcn/Room/Data.lean
  Subject:   THE DATA OF A ROOM (room_manager.rs, first half): attributes, groups, signaling
             parameters, members, and `Room` itself, with the conversions from and to protobuf.

  `Client::get_psn_timestamp()` is read through the parameter `now` of each call. The several
  reads a call makes are one value here; nothing in the room manager compares two of them.
  The array types `[u8; N]` are `Vector UInt8 N`; `RoomBinAttr` carries `cur_size <= N` as a
  field, so a slice `attr[0..cur_size]` is always in range.
-/
import Mathlib
import Rpcn.Np2Structs

namespace Rpcn

open Np2Structs
open Std (ExtTreeMap)

/-! ## 1. Constants -/

abbrev roomSearchableIntAttrExternal1Id : UInt16 := 0x4C
abbrev roomSearchableIntAttrExternal8Id : UInt16 := 0x53
abbrev roomSearchableBinAttrExternal1Id : UInt16 := 0x54
abbrev roomBinAttrExternal1Id : UInt16 := 0x55
abbrev roomBinAttrExternal2Id : UInt16 := 0x56
abbrev roomBinAttrInternal1Id : UInt16 := 0x57
abbrev roomBinAttrInternal2Id : UInt16 := 0x58
abbrev roomMemberBinAttrInternal1Id : UInt16 := 0x59

abbrev roomFlagAttrFull : UInt32 := 0x20000000

/-- `PROTECTED_ROOM_FLAGS`: the flags a client cannot set. -/
abbrev protectedRoomFlags : UInt32 := roomFlagAttrFull

abbrev roomMemberFlagAttrOwner : UInt32 := 0x80000000

abbrev creatorRoomMemberId : UInt16 := 16

/-- An eight byte password or group label: the bytes when there are exactly eight. -/
def eightBytes (bs : List UInt8) : Option (Vector UInt8 8) :=
  if h : bs.length = 8 then some ⟨bs.toArray, by simpa using h⟩ else none

/-! ## 2. Attributes -/

structure RoomBinAttr (N : Nat) where
  id : UInt16
  attr : Vector UInt8 N
  curSize : Nat
  curSize_le : curSize ≤ N
  deriving DecidableEq, Repr

namespace RoomBinAttr

def withId {N : Nat} (id : UInt16) : RoomBinAttr N := ⟨id, Vector.replicate N 0, 0, Nat.zero_le N⟩

def fromProtobuf {N : Nat} (pb : BinAttr) : Except ErrorType (RoomBinAttr N) := do
  let id ← Uint16.getVerifiedOpt pb.id
  if h : pb.data.length > N then
    throw .malformed
  else
    return ⟨id, Vector.ofFn fun i => pb.data.getD i 0, pb.data.length, Nat.le_of_not_lt h⟩

def toProtobuf {N : Nat} (a : RoomBinAttr N) : BinAttr :=
  ⟨Uint16.newFromValue a.id, a.attr.toList.take a.curSize⟩

end RoomBinAttr

structure RoomMemberBinAttr where
  updateDate : UInt64
  data : RoomBinAttr 128
  deriving DecidableEq, Repr

namespace RoomMemberBinAttr

def new (now : UInt64) : RoomMemberBinAttr := ⟨now, .withId roomMemberBinAttrInternal1Id⟩

def fromProtobuf (pb : BinAttr) (now : UInt64) : Except ErrorType RoomMemberBinAttr := do
  let data ← RoomBinAttr.fromProtobuf pb
  return ⟨now, data⟩

def toProtobuf (a : RoomMemberBinAttr) : RoomMemberBinAttrInternal :=
  ⟨a.updateDate, some a.data.toProtobuf⟩

end RoomMemberBinAttr

structure RoomBinAttrInternal where
  updateDate : UInt64
  updateMemberId : UInt16
  data : RoomBinAttr 256
  deriving DecidableEq, Repr

namespace RoomBinAttrInternal

def withId (id : UInt16) (now : UInt64) : RoomBinAttrInternal :=
  ⟨now, creatorRoomMemberId, .withId id⟩

def fromProtobuf (pb : BinAttr) (memberId : UInt16) (now : UInt64) :
    Except ErrorType RoomBinAttrInternal := do
  let data ← RoomBinAttr.fromProtobuf pb
  return ⟨now, memberId, data⟩

def toProtobuf (a : RoomBinAttrInternal) : BinAttrInternal :=
  ⟨a.updateDate, Uint16.newFromValue a.updateMemberId, some a.data.toProtobuf⟩

end RoomBinAttrInternal

structure RoomIntAttr where
  id : UInt16
  attr : UInt32
  deriving DecidableEq, Repr

namespace RoomIntAttr

def withId (id : UInt16) : RoomIntAttr := ⟨id, 0⟩

def fromProtobuf (pb : IntAttr) : Except ErrorType RoomIntAttr := do
  let id ← Uint16.getVerifiedOpt pb.id
  return ⟨id, pb.num⟩

def toProtobuf (a : RoomIntAttr) : IntAttr := ⟨Uint16.newFromValue a.id, a.attr⟩

end RoomIntAttr

/-! ## 3. Groups and signaling parameters -/

structure RoomGroupConfig where
  slotNum : UInt32
  fixedLabel : Bool
  label : Option (Vector UInt8 8)
  withPassword : Bool
  groupId : UInt8
  numMembers : UInt32
  deriving DecidableEq, Repr

namespace RoomGroupConfig

def fromProtobuf (pb : GroupConfig) (groupId : UInt8) : RoomGroupConfig where
  slotNum := pb.slotNum
  fixedLabel := (eightBytes pb.label).isSome
  label := eightBytes pb.label
  withPassword := pb.withPassword
  groupId := groupId
  numMembers := 0

def toProtobuf (g : RoomGroupConfig) : RoomGroup where
  groupId := Uint8.newFromValue g.groupId
  withPassword := g.withPassword
  label := (g.label.map (·.toList)).getD []
  slotNum := g.slotNum
  curGroupMemberNum := g.numMembers

end RoomGroupConfig

inductive SignalingType where
  | signalingNone
  | signalingMesh
  | signalingStar
  deriving DecidableEq, Repr

def SignalingType.fromU8 (n : UInt8) : Option SignalingType :=
  if n = 0 then some .signalingNone
  else if n = 1 then some .signalingMesh
  else if n = 2 then some .signalingStar
  else none

def SignalingType.toU8 : SignalingType → UInt8
  | .signalingNone => 0
  | .signalingMesh => 1
  | .signalingStar => 2

structure SignalParam where
  sigType : SignalingType
  flag : UInt8
  hubMemberId : UInt16
  deriving DecidableEq, Repr

namespace SignalParam

def fromProtobuf (pb : OptParam) : Except ErrorType SignalParam := do
  let n ← Uint8.getVerifiedOpt pb.type
  let sigType ← (SignalingType.fromU8 n).elim (throw .malformed) pure
  let flag ← Uint8.getVerifiedOpt pb.flag
  let hubMemberId ← Uint16.getVerifiedOpt pb.hubMemberId
  return ⟨sigType, flag, hubMemberId⟩

def ofRequest (pb : Option OptParam) : Except ErrorType (Option SignalParam) :=
  match pb with
  | some sigOpt => some <$> fromProtobuf sigOpt
  | none => .ok none

def toProtobuf (p : SignalParam) : OptParam :=
  ⟨Uint8.newFromValue p.sigType.toU8, Uint8.newFromValue p.flag, Uint16.newFromValue p.hubMemberId⟩

def shouldSignal (p : SignalParam) : Bool :=
  match p.sigType with
  | .signalingNone => false
  | _ => p.flag &&& 1 != 1

end SignalParam

/-! ## 4. Members -/

structure RoomUser where
  userId : UserId
  npid : String
  onlineName : String
  avatarUrl : String
  joinDate : UInt64
  flagAttr : UInt32
  groupId : UInt8
  memberAttr : RoomMemberBinAttr
  teamId : UInt8
  memberId : UInt16
  signalingInfo : ClientSharedSignalingInfo
  deriving DecidableEq, Repr

namespace RoomUser

/-- The member the two conversions below return: nobody yet, in no group, without flags. -/
def blank (memberAttr : RoomMemberBinAttr) (teamId : UInt8)
    (signalingInfo : ClientSharedSignalingInfo) (now : UInt64) : RoomUser where
  userId := 0
  npid := ""
  onlineName := ""
  avatarUrl := ""
  joinDate := now
  flagAttr := 0
  groupId := 0
  memberAttr := memberAttr
  teamId := teamId
  memberId := 0
  signalingInfo := signalingInfo

/-- The member attribute of a create request: any attribute but one with the member id is an
    error. -/
def createAttr (attrs : List BinAttr) (now : UInt64) : Except ErrorType RoomMemberBinAttr :=
  match attrs with
  | [binAttr] => do
    let id ← Uint16.getVerifiedOpt binAttr.id
    if id = roomMemberBinAttrInternal1Id then
      RoomMemberBinAttr.fromProtobuf binAttr now
    else
      throw .malformed
  | [] => pure (RoomMemberBinAttr.new now)
  | _ => throw .malformed

def fromCreateJoinRoomRequest (pb : CreateJoinRoomRequest)
    (signalingInfo : ClientSharedSignalingInfo) (now : UInt64) : Except ErrorType RoomUser := do
  let memberAttr ← createAttr pb.roomMemberBinAttrInternal now
  let teamId ← Uint8.getVerifiedOpt pb.teamId
  return blank memberAttr teamId signalingInfo now

/-- The member attribute of a join request: unlike on creation, an attribute with another id and
    a list of several attributes are replaced by the default. -/
def joinAttr (attrs : List BinAttr) (now : UInt64) : Except ErrorType RoomMemberBinAttr :=
  match attrs with
  | [binAttr] => do
    let id ← Uint16.getVerifiedOpt binAttr.id
    if id = roomMemberBinAttrInternal1Id then
      RoomMemberBinAttr.fromProtobuf binAttr now
    else
      pure (RoomMemberBinAttr.new now)
  | _ => pure (RoomMemberBinAttr.new now)

def fromJoinRoomRequest (pb : JoinRoomRequest) (signalingInfo : ClientSharedSignalingInfo)
    (now : UInt64) : Except ErrorType RoomUser := do
  let memberAttr ← joinAttr pb.roomMemberBinAttrInternal now
  let teamId ← Uint8.getVerifiedOpt pb.teamId
  return blank memberAttr teamId signalingInfo now

end RoomUser

/-! ## 5. Rooms -/

structure Room where
  worldId : UInt32
  lobbyId : UInt64
  maxSlot : UInt16
  flagAttr : UInt32
  binAttrInternal : Vector RoomBinAttrInternal 2
  binAttrExternal : Vector (RoomBinAttr 256) 2
  searchBinAttr : RoomBinAttr 64
  searchIntAttr : Vector RoomIntAttr 8
  roomPassword : Option (Vector UInt8 8)
  groupConfig : List RoomGroupConfig
  passwordSlotMask : UInt64
  allowedUsers : List String
  blockedUsers : List String
  signalingParam : Option SignalParam
  serverId : UInt16
  roomId : UInt64
  slots : List Bool
  memberIdCounter : UInt16
  users : ExtTreeMap UInt16 RoomUser
  owner : UInt16
  ownerSuccession : List UInt16

namespace Room

/-- One round of the attribute loops of `from_protobuf`: an attribute with an id outside
    `lo..=hi` is skipped, the others are stored at their position. -/
def storeAttr {α : Type} {n : Nat} (lo hi : UInt16) (id : UInt16) (a : α) (attrs : Vector α n) :
    Vector α n :=
  if id < lo ∨ hi < id then attrs else attrs.setIfInBounds (id - lo).toNat a

def fromProtobuf (pb : CreateJoinRoomRequest) (now : UInt64) : Except ErrorType Room := do
  let binAttrInternal ← pb.roomBinAttrInternal.foldlM
    (fun attrs p => do
      let a ← RoomBinAttrInternal.fromProtobuf p creatorRoomMemberId now
      return storeAttr roomBinAttrInternal1Id roomBinAttrInternal2Id a.data.id a attrs)
    #v[RoomBinAttrInternal.withId roomBinAttrInternal1Id now,
      RoomBinAttrInternal.withId roomBinAttrInternal2Id now]
  let binAttrExternal ← pb.roomBinAttrExternal.foldlM
    (fun attrs p => do
      let a ← RoomBinAttr.fromProtobuf p
      return storeAttr roomBinAttrExternal1Id roomBinAttrExternal2Id a.id a attrs)
    #v[RoomBinAttr.withId roomBinAttrExternal1Id, RoomBinAttr.withId roomBinAttrExternal2Id]
  let searchBinAttr ← pb.roomSearchableBinAttrExternal.foldlM
    (fun (attr : RoomBinAttr 64) p => do
      let a ← RoomBinAttr.fromProtobuf p
      return if a.id ≠ roomSearchableBinAttrExternal1Id then attr else a)
    (RoomBinAttr.withId roomSearchableBinAttrExternal1Id)
  let searchIntAttr ← pb.roomSearchableIntAttrExternal.foldlM
    (fun (attrs : Vector RoomIntAttr 8) p => do
      let a ← RoomIntAttr.fromProtobuf p
      return storeAttr roomSearchableIntAttrExternal1Id roomSearchableIntAttrExternal8Id a.id a
        attrs)
    (Vector.ofFn fun i => RoomIntAttr.withId (roomSearchableIntAttrExternal1Id + i.val.toUInt16))
  let signalingParam ← SignalParam.ofRequest pb.sigOptParam
  return {
    worldId := pb.worldId
    lobbyId := pb.lobbyId
    maxSlot := pb.maxSlot.toUInt16
    flagAttr := pb.flagAttr &&& ~~~protectedRoomFlags
    binAttrInternal
    binAttrExternal
    searchBinAttr
    searchIntAttr
    roomPassword := eightBytes pb.roomPassword
    groupConfig := pb.groupConfig.mapIdx fun i gc =>
      RoomGroupConfig.fromProtobuf gc (i + 1).toUInt8
    passwordSlotMask := pb.passwordSlotMask
    allowedUsers := pb.allowedUser
    blockedUsers := pb.blockedUser
    signalingParam
    serverId := 0
    roomId := 0
    slots := List.replicate pb.maxSlot.toUInt16.toNat false
    memberIdCounter := 0
    users := ∅
    owner := 0
    ownerSuccession := [] }

/-- `RoomUser::to_RoomMemberDataInternal`; `none` where the index into `group_config` panics. -/
def toRoomMemberDataInternal (room : Room) (u : RoomUser) : Option RoomMemberDataInternal := do
  let roomGroup ←
    if u.groupId ≠ 0 then
      (room.groupConfig[u.groupId.toNat - 1]?).map fun g => some g.toProtobuf
    else
      some none
  return {
    userInfo := some ⟨u.npid, u.onlineName, u.avatarUrl⟩
    joinDate := u.joinDate
    memberId := u.memberId.toUInt32
    teamId := Uint8.newFromValue u.teamId
    roomGroup
    natType := Uint8.newFromValue 2
    flagAttr := u.flagAttr
    roomMemberBinAttrInternal := [u.memberAttr.toProtobuf] }

/-- `Room::to_RoomDataInternal`; `none` where a member's group does not exist. -/
def toRoomDataInternal (room : Room) : Option RoomDataInternal := do
  let memberList ← room.users.toList.mapM fun p => room.toRoomMemberDataInternal p.2
  return {
    serverId := Uint16.newFromValue room.serverId
    worldId := room.worldId
    lobbyId := room.lobbyId
    roomId := room.roomId
    passwordSlotMask := room.passwordSlotMask
    maxSlot := room.maxSlot.toUInt32
    memberList
    ownerId := Uint16.newFromValue room.owner
    roomGroup := room.groupConfig.map (·.toProtobuf)
    flagAttr := room.flagAttr
    roomBinAttrInternal := room.binAttrInternal.toList.map (·.toProtobuf) }

def toOptParam (room : Room) : Option OptParam := room.signalingParam.map (·.toProtobuf)

/-- `Room::get_room_member_update_info`; `none` where the member or its group is missing. -/
def getRoomMemberUpdateInfo (room : Room) (memberId : UInt16) (eventCause : EventCause)
    (optData : Option PresenceOptionData) : Option RoomMemberUpdateInfo := do
  let u ← room.users[memberId]?
  let data ← room.toRoomMemberDataInternal u
  return ⟨data, eventCause, optData⟩

/-- The user ids of members, in the order of their member ids. -/
def userIdsOf (users : ExtTreeMap UInt16 RoomUser) : List UserId :=
  users.toList.map fun p => p.2.userId

def getRoomUserIds (room : Room) : Finset UserId := (userIdsOf room.users).toFinset

/-- The loop of `find_user` and `get_member_id`: the first key whose member has the user id. -/
def memberOf (room : Room) (userId : UserId) : Option UInt16 :=
  (room.users.toList.find? fun p => p.2.userId = userId).map (·.1)

/-- `Room::find_user`: zero when the user is not in the room. -/
def findUser (room : Room) (userId : UserId) : UInt16 := (room.memberOf userId).getD 0

def getMemberId (room : Room) (userId : UserId) : Except ErrorType UInt16 :=
  (room.memberOf userId).elim (.error .notFound) .ok

end Room

end Rpcn
