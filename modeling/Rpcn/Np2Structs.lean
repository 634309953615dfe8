/-
  File:      Rpcn/Np2Structs.lean
  Subject:   The protocol messages of `np2_structs.proto` that the modelled functions read or
             build, the server's error codes, and the verified reads of `protobuf_helpers.rs`.

  A message is the structure prost generates: a sub-message is an `Option`, `bytes` a list of
  bytes, `repeated` a list. Encoding a message to bytes is prost's work and not modelled; a
  function of the source that returns `encode_to_vec()` returns the message here.
-/
import Mathlib.Data.Multiset.Defs
import Mathlib.Tactic.Common

namespace Rpcn

inductive ErrorType where
  | noError
  | malformed
  | invalid
  | invalidInput
  | tooSoon
  | loginError
  | loginAlreadyLoggedIn
  | loginInvalidUsername
  | loginInvalidPassword
  | loginInvalidToken
  | creationError
  | creationExistingUsername
  | creationBannedEmailProvider
  | creationExistingEmail
  | roomMissing
  | roomAlreadyJoined
  | roomFull
  | roomPasswordMismatch
  | roomPasswordMissing
  | roomGroupNoJoinLabel
  | roomGroupFull
  | roomGroupJoinLabelNotFound
  | roomGroupMaxSlotMismatch
  | unauthorized
  | dbFail
  | emailFail
  | notFound
  | blocked
  | alreadyFriend
  | scoreNotBest
  | scoreInvalid
  | scoreHasData
  | condFail
  | unsupported
  deriving DecidableEq, Repr

inductive DbError where
  | internal
  | invalid
  | empty
  | wrongPass
  | wrongToken
  | existingUsername
  | existingEmail
  | scoreNotBest
  deriving DecidableEq, Repr

abbrev ComId := Vector UInt8 12

def utf8OfByte (b : UInt8) : List UInt8 :=
  if b < 0x80 then [b] else [(0xC0 : UInt8) ||| (b >>> 6), (0x80 : UInt8) ||| (b &&& 0x3F)]

/-- `com_id_to_string`, as the bytes of the string. -/
def comIdToString (comId : ComId) : List UInt8 := comId.toList.flatMap utf8OfByte

/-- A user id. The source's `i64` is only compared, never computed with. -/
abbrev UserId := Int

structure ClientInfo where
  userId : UserId
  npid : String
  onlineName : String
  avatarUrl : String
  deriving DecidableEq, Repr

structure ClientSharedSignalingInfo where
  addrP2pIpv4 : Vector UInt8 4 × UInt16
  addrP2pIpv6 : Option (Vector UInt8 16 × UInt16)
  localAddrP2p : Vector UInt8 4
  deriving DecidableEq, Repr

def ClientSharedSignalingInfo.new : ClientSharedSignalingInfo :=
  ⟨(Vector.replicate 4 0, 0), none, Vector.replicate 4 0⟩

inductive EventCause where
  | none
  | leaveAction
  | kickoutAction
  | grantOwnerAction
  | serverOperation
  | memberDisappeared
  | serverInternal
  | connectionError
  | npSignedOut
  | systemError
  | contextError
  | contextAction
  deriving DecidableEq, Repr

namespace Np2Structs

/-! ## 1. Narrow integers -/

structure Uint8 where
  value : UInt32
  deriving DecidableEq, Repr

structure Uint16 where
  value : UInt32
  deriving DecidableEq, Repr

def Uint16.getVerified (v : Uint16) : Except ErrorType UInt16 :=
  if v.value > 65535 then .error .malformed else .ok v.value.toUInt16

def Uint8.getVerified (v : Uint8) : Except ErrorType UInt8 :=
  if v.value > 255 then .error .malformed else .ok v.value.toUInt8

def Uint16.getVerifiedOpt : Option Uint16 → Except ErrorType UInt16
  | none => .error .malformed
  | some v => v.getVerified

def Uint8.getVerifiedOpt : Option Uint8 → Except ErrorType UInt8
  | none => .error .malformed
  | some v => v.getVerified

def Uint16.newFromValue (v : UInt16) : Option Uint16 := some ⟨v.toUInt32⟩

def Uint8.newFromValue (v : UInt8) : Option Uint8 := some ⟨v.toUInt32⟩

/-! ## 2. Parts of the room requests -/

structure BinAttr where
  id : Option Uint16
  data : List UInt8
  deriving DecidableEq, Repr

structure IntAttr where
  id : Option Uint16
  num : UInt32
  deriving DecidableEq, Repr

structure OptParam where
  type : Option Uint8
  flag : Option Uint8
  hubMemberId : Option Uint16
  deriving DecidableEq, Repr

structure GroupConfig where
  slotNum : UInt32
  label : List UInt8
  withPassword : Bool
  deriving DecidableEq, Repr

structure PresenceOptionData where
  data : List UInt8
  len : UInt32
  deriving DecidableEq, Repr

structure RoomGroupPasswordConfig where
  groupId : Option Uint8
  withPassword : Bool
  deriving DecidableEq, Repr

/-! ## 3. The room requests -/

structure CreateJoinRoomRequest where
  worldId : UInt32
  lobbyId : UInt64
  maxSlot : UInt32
  flagAttr : UInt32
  roomBinAttrInternal : List BinAttr
  roomSearchableIntAttrExternal : List IntAttr
  roomSearchableBinAttrExternal : List BinAttr
  roomBinAttrExternal : List BinAttr
  roomPassword : List UInt8
  groupConfig : List GroupConfig
  passwordSlotMask : UInt64
  allowedUser : List String
  blockedUser : List String
  joinRoomGroupLabel : List UInt8
  roomMemberBinAttrInternal : List BinAttr
  teamId : Option Uint8
  sigOptParam : Option OptParam
  deriving DecidableEq, Repr

structure JoinRoomRequest where
  roomId : UInt64
  roomPassword : List UInt8
  joinRoomGroupLabel : List UInt8
  roomMemberBinAttrInternal : List BinAttr
  optData : Option PresenceOptionData
  teamId : Option Uint8
  deriving DecidableEq, Repr

structure SetRoomDataExternalRequest where
  roomId : UInt64
  roomSearchableIntAttrExternal : List IntAttr
  roomSearchableBinAttrExternal : List BinAttr
  roomBinAttrExternal : List BinAttr
  deriving DecidableEq, Repr

structure SetRoomDataInternalRequest where
  roomId : UInt64
  flagFilter : UInt32
  flagAttr : UInt32
  roomBinAttrInternal : List BinAttr
  passwordConfig : List RoomGroupPasswordConfig
  passwordSlotMask : List UInt64
  ownerPrivilegeRank : List Uint16
  deriving DecidableEq, Repr

structure SetRoomMemberDataInternalRequest where
  roomId : UInt64
  memberId : Option Uint16
  teamId : Option Uint8
  roomMemberBinAttrInternal : List BinAttr
  deriving DecidableEq, Repr

structure IntSearchFilter where
  searchOperator : Option Uint8
  attr : Option IntAttr
  deriving DecidableEq, Repr

structure BinSearchFilter where
  searchOperator : Option Uint8
  attr : Option BinAttr
  deriving DecidableEq, Repr

structure SearchRoomRequest where
  option : Int32
  worldId : UInt32
  lobbyId : UInt64
  rangeFilterStartIndex : UInt32
  rangeFilterMax : UInt32
  flagFilter : UInt32
  flagAttr : UInt32
  intFilter : List IntSearchFilter
  binFilter : List BinSearchFilter
  attrId : List Uint16
  deriving DecidableEq, Repr

structure GetRoomDataExternalListRequest where
  roomIds : List UInt64
  attrIds : List Uint16
  deriving DecidableEq, Repr

/-! ## 4. The room replies and notifications -/

structure UserInfo where
  npId : String
  onlineName : String
  avatarUrl : String
  deriving DecidableEq, Repr

structure RoomGroup where
  groupId : Option Uint8
  withPassword : Bool
  label : List UInt8
  slotNum : UInt32
  curGroupMemberNum : UInt32
  deriving DecidableEq, Repr

structure RoomMemberBinAttrInternal where
  updateDate : UInt64
  data : Option BinAttr
  deriving DecidableEq, Repr

structure BinAttrInternal where
  updateDate : UInt64
  updateMemberId : Option Uint16
  data : Option BinAttr
  deriving DecidableEq, Repr

structure RoomMemberDataInternal where
  userInfo : Option UserInfo
  joinDate : UInt64
  memberId : UInt32
  teamId : Option Uint8
  roomGroup : Option RoomGroup
  natType : Option Uint8
  flagAttr : UInt32
  roomMemberBinAttrInternal : List RoomMemberBinAttrInternal
  deriving DecidableEq, Repr

structure RoomDataInternal where
  serverId : Option Uint16
  worldId : UInt32
  lobbyId : UInt64
  roomId : UInt64
  passwordSlotMask : UInt64
  maxSlot : UInt32
  memberList : List RoomMemberDataInternal
  ownerId : Option Uint16
  roomGroup : List RoomGroup
  flagAttr : UInt32
  roomBinAttrInternal : List BinAttrInternal
  deriving DecidableEq, Repr

structure CreateRoomResponse where
  internal : RoomDataInternal
  optParam : Option OptParam
  deriving DecidableEq, Repr

structure RoomDataExternal where
  serverId : Option Uint16
  worldId : UInt32
  publicSlotNum : Option Uint16
  privateSlotNum : Option Uint16
  lobbyId : UInt64
  roomId : UInt64
  openPublicSlotNum : Option Uint16
  maxSlot : Option Uint16
  openPrivateSlotNum : Option Uint16
  curMemberNum : Option Uint16
  passwordSlotMask : UInt64
  owner : Option UserInfo
  roomGroup : List RoomGroup
  flagAttr : UInt32
  roomSearchableIntAttrExternal : List IntAttr
  roomSearchableBinAttrExternal : List BinAttr
  roomBinAttrExternal : List BinAttr
  deriving DecidableEq, Repr

structure SearchRoomResponse where
  startIndex : UInt32
  total : UInt32
  rooms : List RoomDataExternal
  deriving DecidableEq, Repr

structure RoomMemberDataExternal where
  userInfo : Option UserInfo
  joinDate : UInt64
  role : Option Uint8
  deriving DecidableEq, Repr

structure RoomDataExternalAll extends RoomDataExternal where
  users : List RoomMemberDataExternal
  deriving DecidableEq, Repr

structure SearchRoomAllResponse where
  startIndex : UInt32
  total : UInt32
  rooms : List RoomDataExternalAll
  deriving DecidableEq, Repr

structure GetRoomDataExternalListResponse where
  rooms : List RoomDataExternal
  deriving DecidableEq, Repr

structure SignalingAddr where
  ip : List UInt8
  port : Option Uint16
  deriving DecidableEq, Repr

structure Matching2SignalingInfo where
  memberId : Option Uint16
  addr : Option SignalingAddr
  deriving DecidableEq, Repr

structure JoinRoomResponse where
  roomData : RoomDataInternal
  signalingData : List Matching2SignalingInfo
  optParam : Option OptParam
  deriving DecidableEq, Repr

structure RoomMemberUpdateInfo where
  roomMemberDataInternal : RoomMemberDataInternal
  eventCause : EventCause
  optData : Option PresenceOptionData
  deriving DecidableEq, Repr

structure NotificationUserJoinedRoom where
  roomId : UInt64
  updateInfo : RoomMemberUpdateInfo
  signaling : Option SignalingAddr
  deriving DecidableEq, Repr

structure RoomDataInternalUpdateInfo where
  newRoomDataInternal : RoomDataInternal
  prevFlagAttr : UInt32
  prevRoomPasswordSlotMask : UInt64
  newRoomGroup : List UInt8
  newRoomBinAttrInternal : List Uint16
  deriving DecidableEq, Repr

structure RoomMemberDataInternalUpdateInfo where
  newRoomMemberDataInternal : RoomMemberDataInternal
  prevFlagAttr : UInt32
  prevTeamId : Option Uint8
  newRoomMemberBinAttrInternal : List Uint16
  deriving DecidableEq, Repr

/-! ## 5. The messages of the old GUI rooms -/

structure MatchingSearchCondition where
  attrType : UInt32
  attrId : UInt32
  compOp : UInt32
  compValue : UInt32
  deriving DecidableEq, Repr

structure MatchingAttr where
  attrType : UInt32
  attrId : UInt32
  num : UInt32
  data : List UInt8
  deriving DecidableEq, Repr

structure CreateRoomGuiRequest where
  totalSlots : UInt32
  privateSlots : UInt32
  privilegeGrant : Bool
  stealth : Bool
  gameAttrs : List MatchingAttr
  deriving DecidableEq, Repr

structure GetRoomListGuiRequest where
  rangeStart : UInt32
  rangeMax : UInt32
  conds : List MatchingSearchCondition
  attrs : List MatchingAttr
  deriving DecidableEq, Repr

structure QuickMatchGuiRequest where
  conds : List MatchingSearchCondition
  availableNum : UInt32
  deriving DecidableEq, Repr

structure SearchJoinRoomGuiRequest where
  conds : List MatchingSearchCondition
  attrs : List MatchingAttr
  deriving DecidableEq, Repr

structure GuiUserInfo where
  info : Option UserInfo
  owner : Bool
  deriving DecidableEq, Repr

/-- The `repeated` field lists the members of a hash map, in its iteration order; the message is
    modelled up to that order. -/
structure MatchingRoomStatus where
  id : List UInt8
  members : Multiset GuiUserInfo
  kickActor : String
  opt : List UInt8
  deriving DecidableEq

structure MatchingRoom where
  id : List UInt8
  attr : List MatchingAttr
  deriving DecidableEq, Repr

structure MatchingRoomList where
  start : UInt32
  total : UInt32
  rooms : List MatchingRoom
  deriving DecidableEq, Repr

structure MatchingGuiRoomId where
  id : List UInt8
  deriving DecidableEq, Repr

structure MatchingSearchJoinRoomInfo where
  room : Option MatchingRoomStatus
  attr : List MatchingAttr
  deriving DecidableEq

/-! ## 6. Messages of the score commands -/

structure RecordScoreRequest where
  boardId : UInt32
  pcId : Int
  score : Int
  comment : String
  data : List UInt8
  deriving DecidableEq, Repr

structure ScoreRankData where
  npId : String
  onlineName : String
  pcId : Int
  rank : UInt32
  score : Int
  hasGameData : Bool
  recordDate : UInt64
  deriving DecidableEq, Repr

structure ScoreInfo where
  data : List UInt8
  deriving DecidableEq, Repr

structure GetScoreResponse where
  rankArray : List ScoreRankData
  commentArray : List String
  infoArray : List ScoreInfo
  lastSortDate : UInt64
  totalRecord : UInt32
  deriving DecidableEq, Repr

end Np2Structs

end Rpcn
