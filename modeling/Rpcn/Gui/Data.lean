/-
  File:      Rpcn/Gui/Data.lean
  Subject:   THE ROOMS OF THE OLD GUI API: the data of gui_room_manager.rs and the functions of
             `GuiRoom`.

  * `isMatch`, `isQuickmatch` -- the two searches. A condition that is not understood is skipped by
    both, so it never excludes a room.
-/
import Rpcn.Lib.HashMap
import Rpcn.Np2Structs

namespace Rpcn

open Lib Np2Structs

/-! ## 1. Attributes -/

/-- `GuiRoomId`: the com id and the number of the room in hexadecimal. -/
abbrev GuiRoomId := Vector UInt8 28

def matchingAttrTypeBasicNum : UInt32 := 2

def matchingAttrTypeGameBin : UInt32 := 3

def matchingAttrTypeGameNum : UInt32 := 4

def matchingRoomAttrIdRoomSearchFlag : UInt32 := 7

/-- `SCE_NP_MATCHING_CONDITION_SEARCH_EQ` and `_NE`, the two a quick match understands. -/
def matchingConditionSearchEq : UInt32 := 0

def matchingConditionSearchNe : UInt32 := 1

structure GuiRoomBinAttr (N : Nat) where
  data : Vector UInt8 N
  curSize : Nat
  curSize_le : curSize ≤ N

namespace GuiRoomBinAttr

variable {N : Nat}

def default : GuiRoomBinAttr N := ⟨Vector.replicate N 0, 0, Nat.zero_le N⟩

/-- `GuiRoomBinAttr::from_protobuf`: data beyond the capacity is cut off. -/
def fromProtobuf (pb : MatchingAttr) : GuiRoomBinAttr N where
  data := Vector.ofFn fun i => pb.data.getD i 0
  curSize := min pb.data.length N
  curSize_le := Nat.min_le_right _ _

def genMatchingAttr (a : GuiRoomBinAttr N) (attrId : UInt32) : MatchingAttr where
  attrType := matchingAttrTypeGameBin
  attrId := attrId
  num := 0
  data := a.data.toList.take a.curSize

end GuiRoomBinAttr

/-! ## 2. Members and rooms -/

structure GuiRoomMember where
  npid : String
  onlineName : String
  avatarUrl : String
  owner : Bool
  deriving DecidableEq, Repr

namespace GuiRoomMember

def fromClientinfo (cinfo : ClientInfo) (owner : Bool) : GuiRoomMember :=
  ⟨cinfo.npid, cinfo.onlineName, cinfo.avatarUrl, owner⟩

def toProtobuf (m : GuiRoomMember) : GuiUserInfo where
  info := some ⟨m.npid, m.onlineName, m.avatarUrl⟩
  owner := m.owner

end GuiRoomMember

structure GuiRoom where
  totalSlots : UInt32
  privateSlots : UInt32
  privilegeGrant : Bool
  stealth : Bool
  members : HashMap UserId GuiRoomMember
  numAttrs : Vector UInt32 16
  bigBinAttrs : Vector (GuiRoomBinAttr 256) 2
  smallBinAttrs : Vector (GuiRoomBinAttr 64) 14
  communicationId : ComId
  quickmatchRoom : Bool

namespace GuiRoom

/-- `GuiRoom::set_attr`. Types and ids it does not know are ignored. -/
def setAttr (room : GuiRoom) (attr : MatchingAttr) : GuiRoom :=
  let i := attr.attrId.toNat
  if attr.attrType = matchingAttrTypeGameBin then
    if i = 1 ∨ i = 2 then
      { room with bigBinAttrs := room.bigBinAttrs.setIfInBounds (i - 1) (.fromProtobuf attr) }
    else if 3 ≤ i ∧ i ≤ 16 then
      { room with smallBinAttrs := room.smallBinAttrs.setIfInBounds (i - 3) (.fromProtobuf attr) }
    else room
  else if attr.attrType = matchingAttrTypeGameNum then
    if 1 ≤ i ∧ i ≤ 16 then
      { room with numAttrs := room.numAttrs.setIfInBounds (i - 1) attr.num }
    else room
  else room

def fromProtobuf (pb : CreateRoomGuiRequest) (comId : ComId) : GuiRoom :=
  let totalSlots := min pb.totalSlots 64
  pb.gameAttrs.foldl setAttr {
    totalSlots
    privateSlots := min (min pb.privateSlots 64) totalSlots
    privilegeGrant := pb.privilegeGrant
    stealth := pb.stealth
    members := ∅
    numAttrs := Vector.replicate 16 0
    bigBinAttrs := Vector.replicate 2 .default
    smallBinAttrs := Vector.replicate 14 .default
    communicationId := comId
    quickmatchRoom := false }

/-- One condition of a quick match, taken over into the room it creates: an equation on a game
    number. -/
def takeCond (room : GuiRoom) (cond : MatchingSearchCondition) : GuiRoom :=
  let i := cond.attrId.toNat
  if cond.attrType = matchingAttrTypeGameNum ∧ (1 ≤ i ∧ i ≤ 16) ∧
      cond.compOp = matchingConditionSearchEq then
    { room with numAttrs := room.numAttrs.setIfInBounds (i - 1) cond.compValue }
  else room

def fromQuickmatchProtobuf (pb : QuickMatchGuiRequest) (comId : ComId) : GuiRoom :=
  pb.conds.foldl takeCond {
    totalSlots := min pb.availableNum 64
    privateSlots := 0
    privilegeGrant := true
    stealth := false
    members := ∅
    numAttrs := Vector.replicate 16 0
    bigBinAttrs := Vector.replicate 2 .default
    smallBinAttrs := Vector.replicate 14 .default
    communicationId := comId
    quickmatchRoom := true }

/-- `GuiRoom::add_member`: a member with that user id is overwritten. -/
def addMember (room : GuiRoom) (cinfo : ClientInfo) (owner : Bool) : GuiRoom :=
  { room with
    members := room.members.insert cinfo.userId (GuiRoomMember.fromClientinfo cinfo owner) }

/-! ## 3. What clients are shown -/

/-- `GuiRoom::gen_MatchingRoomStatus`. A filter for user 0 is none. -/
def genMatchingRoomStatus (room : GuiRoom) (id : GuiRoomId) (memberFilter : Option UserId)
    (extraMember : Option GuiRoomMember) : MatchingRoomStatus :=
  let listed : Multiset GuiUserInfo :=
    match memberFilter with
    | some userId =>
      if userId ≠ 0 then
        match room.members.get? userId with
        | some member => {member.toProtobuf}
        | none => 0
      else room.members.values.map GuiRoomMember.toProtobuf
    | none => room.members.values.map GuiRoomMember.toProtobuf
  let extra : Multiset GuiUserInfo :=
    match extraMember with
    | some member => {member.toProtobuf}
    | none => 0
  ⟨id.toList, listed + extra, "", []⟩

/-- The game number under an id; the callers have checked that there is one. -/
def numAttr (room : GuiRoom) (attrId : UInt32) : UInt32 :=
  room.numAttrs.toList.getD (attrId.toNat - 1) 0

def basicNum (room : GuiRoom) (attrId : UInt32) : Option UInt32 :=
  match attrId.toNat with
  | 1 => some room.totalSlots
  | 2 => some room.privateSlots
  | 3 => some room.members.len.toUInt32
  | 4 => some room.members.len.toUInt32
  | 5 => some 0
  | 6 => some (if room.privilegeGrant then 1 else 0)
  | 7 => some (if room.stealth then 1 else 0)
  | _ => none

def genMatchingAttr (room : GuiRoom) (attrType attrId : UInt32) : Option MatchingAttr :=
  let i := attrId.toNat
  if attrType = matchingAttrTypeBasicNum then
    (room.basicNum attrId).map fun num => ⟨attrType, attrId, num, []⟩
  else if attrType = matchingAttrTypeGameBin then
    if i = 1 ∨ i = 2 then
      (room.bigBinAttrs.toList[i - 1]?).map (·.genMatchingAttr attrId)
    else if 3 ≤ i ∧ i ≤ 16 then
      (room.smallBinAttrs.toList[i - 3]?).map (·.genMatchingAttr attrId)
    else none
  else if attrType = matchingAttrTypeGameNum then
    if i = 0 ∨ i > 16 then none
    else some ⟨attrType, attrId, room.numAttr attrId, []⟩
  else none

/-- The attributes asked for, without those that do not exist. -/
def genAttrs (room : GuiRoom) (attrs : List (UInt32 × UInt32)) : List MatchingAttr :=
  attrs.filterMap fun a => room.genMatchingAttr a.1 a.2

def parsedAttrs (attrs : List MatchingAttr) : List (UInt32 × UInt32) :=
  attrs.map fun a => (a.attrType, a.attrId)

def genMatchingSearchJoinRoomInfo (room : GuiRoom) (id : GuiRoomId)
    (memberFilter : Option UserId) (extraMember : Option GuiRoomMember)
    (attrs : List MatchingAttr) : MatchingSearchJoinRoomInfo where
  room := some (room.genMatchingRoomStatus id memberFilter extraMember)
  attr := room.genAttrs (parsedAttrs attrs)

def genMatchingRoom (room : GuiRoom) (id : GuiRoomId) (attrs : List (UInt32 × UInt32)) :
    MatchingRoom :=
  ⟨id.toList, room.genAttrs attrs⟩

/-! ## 4. The searches -/

def matchValue (value cmpValue cmpOp : UInt32) : Bool :=
  match cmpOp.toNat with
  | 0 => value == cmpValue
  | 1 => value != cmpValue
  | 2 => value < cmpValue
  | 3 => value ≤ cmpValue
  | 4 => value > cmpValue
  | 5 => value ≥ cmpValue
  | _ => false

/-- One round of the loop of `is_match`: the condition holds or is skipped. -/
def matchCond (room : GuiRoom) (cond : MatchingSearchCondition) : Bool :=
  if cond.attrType = matchingAttrTypeBasicNum then
    if cond.attrId ≠ 1 then true else matchValue room.totalSlots cond.compValue cond.compOp
  else if cond.attrType = matchingAttrTypeGameNum then
    if cond.attrId = 0 ∨ cond.attrId > 8 then true
    else matchValue (room.numAttr cond.attrId) cond.compValue cond.compOp
  else true

def isMatch (room : GuiRoom) (conds : List MatchingSearchCondition) (checkFull : Bool) : Bool :=
  if room.quickmatchRoom || room.stealth then false
  else if checkFull && room.members.len == room.totalSlots.toNat then false
  else conds.all room.matchCond

def quickCond (room : GuiRoom) (cond : MatchingSearchCondition) : Bool :=
  if cond.attrType ≠ matchingAttrTypeGameNum ∨ cond.attrId = 0 ∨ cond.attrId > 8 ∨
      (cond.compOp ≠ matchingConditionSearchEq ∧ cond.compOp ≠ matchingConditionSearchNe) then true
  else matchValue (room.numAttr cond.attrId) cond.compValue cond.compOp

def isQuickmatch (room : GuiRoom) (req : QuickMatchGuiRequest) : Bool :=
  if !room.quickmatchRoom || room.stealth || room.totalSlots != req.availableNum then false
  else req.conds.all room.quickCond

end GuiRoom

end Rpcn
