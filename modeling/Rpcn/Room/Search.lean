/-
  File:      Rpcn/Room/Search.lean
  Subject:   SEARCHING ROOMS (room_manager.rs): `is_match`, `to_RoomDataExternal`, `search_room`.

  A search reads the manager and writes nothing, so it is an `Outcome`: a response, an error for the
  client, or a panic. The index of a world or a lobby is a hash set; the order in which the search
  meets its ids is the input `ids`.
-/
import Rpcn.Room.Manager

namespace Rpcn

open Lib Np2Structs Outcome

inductive SearchPanic where
  /-- `get_room`, on an id of the index without a room. -/
  | roomMissing
  /-- `self.users.get(&self.owner).unwrap()`. -/
  | ownerMissing
  /-- `self.slots[i]`. -/
  | slotIndex
  /-- A binary filter with an operator other than `Eq` and `Ne`. -/
  | binOperator
  deriving DecidableEq, Repr

abbrev SearchOutcome := Outcome ErrorType SearchPanic

/-! ## 1. Filters -/

abbrev roomFlagAttrHidden : UInt32 := 0x10000000

abbrev roomFlagAttrNatTypeRestriction : UInt32 := 0x04000000

inductive Operator where
  | eq
  | ne
  | lt
  | le
  | gt
  | ge
  deriving DecidableEq, Repr

namespace Operator

def fromU8 (n : UInt8) : Option Operator :=
  if n = 1 then some .eq
  else if n = 2 then some .ne
  else if n = 3 then some .lt
  else if n = 4 then some .le
  else if n = 5 then some .gt
  else if n = 6 then some .ge
  else none

/-- The comparison an operator stands for. -/
def holds : Operator → UInt32 → UInt32 → Bool
  | .eq, a, b => a = b
  | .ne, a, b => a ≠ b
  | .lt, a, b => a < b
  | .le, a, b => a ≤ b
  | .gt, a, b => a > b
  | .ge, a, b => a ≥ b

end Operator

namespace Room

/-- The attribute with an id of `lo..=hi`, which is stored at its position; `none` for another
    id. -/
def attrAt {α : Type} {n : Nat} (lo hi : UInt16) (attrs : Vector α n) (id : UInt16) : Option α :=
  if id < lo ∨ hi < id then none else attrs[(id - lo).toNat]?

def searchInt (room : Room) (id : UInt16) : Option RoomIntAttr :=
  attrAt roomSearchableIntAttrExternal1Id roomSearchableIntAttrExternal8Id room.searchIntAttr id

/-- The loop of `is_match` over `int_filter`: the first filter that is malformed or not met ends
    it. -/
def matchesInt (room : Room) : List IntSearchFilter → SearchOutcome Bool
  | [] => return true
  | f :: fs => do
    let op ← .ofExcept (Uint8.getVerifiedOpt f.searchOperator)
    match f.attr with
    | none => room.matchesInt fs
    | some attr =>
      let id ← .ofExcept (Uint16.getVerifiedOpt attr.id)
      match room.searchInt id, Operator.fromU8 op with
      | some found, some op =>
        if op.holds found.attr attr.num then room.matchesInt fs else return false
      | _, _ => return false

/-- Is the searchable binary attribute, as far as `data` goes, `data`? -/
def binEquality (room : Room) (data : List UInt8) : Bool :=
  let lenCompare := min data.length 64
  room.searchBinAttr.attr.toList.take lenCompare = data.take lenCompare

def matchesBin (room : Room) : List BinSearchFilter → SearchOutcome Bool
  | [] => return true
  | f :: fs => do
    let op ← .ofExcept (Uint8.getVerifiedOpt f.searchOperator)
    match f.attr with
    | none => room.matchesBin fs
    | some attr =>
      let id ← .ofExcept (Uint16.getVerifiedOpt attr.id)
      if id ≠ roomSearchableBinAttrExternal1Id then return false
      else
        match Operator.fromU8 op with
        | none => return false
        | some .eq => if room.binEquality attr.data then room.matchesBin fs else return false
        | some .ne => if room.binEquality attr.data then return false else room.matchesBin fs
        | some _ => .panic .binOperator

def isMatch (room : Room) (req : SearchRoomRequest) : SearchOutcome Bool := do
  if room.flagAttr &&& roomFlagAttrHidden ≠ 0 then
    return false
  else if room.flagAttr &&& (req.flagFilter &&& ~~~roomFlagAttrNatTypeRestriction) ≠
      req.flagAttr &&& ~~~roomFlagAttrNatTypeRestriction then
    return false
  else if ← room.matchesInt req.intFilter then
    room.matchesBin req.binFilter
  else
    return false

/-! ## 2. What a room shows of itself -/

/-- The owner, as far as the bits of the search option ask for. -/
def ownerInfo (room : Room) (searchOption : Int32) : SearchOutcome (Option UserInfo) :=
  if searchOption &&& 0x7 ≠ 0 then do
    let ownerUser ← .unwrap room.users[room.owner]? .ownerMissing
    return some {
      npId := ownerUser.npid
      onlineName := if searchOption &&& 0x2 ≠ 0 then ownerUser.onlineName else ""
      avatarUrl := if searchOption &&& 0x4 ≠ 0 then ownerUser.avatarUrl else "" }
  else
    return none

structure SlotNums where
  maxPrivateSlots : UInt16
  openPublicSlots : UInt16
  openPrivateSlots : UInt16
  deriving DecidableEq, Repr

/-- One round of the loop over the slots. -/
def countSlot (room : Room) (n : SlotNums) (i : Nat) : SearchOutcome SlotNums := do
  let taken ← .unwrap room.slots[i]? .slotIndex
  if room.passwordSlotMask &&& ((1 : UInt64) <<< (63 - i.toUInt64)) ≠ 0 then
    return { n with
      maxPrivateSlots := n.maxPrivateSlots + 1
      openPrivateSlots := if taken then n.openPrivateSlots else n.openPrivateSlots + 1 }
  else
    return { n with
      openPublicSlots := if taken then n.openPublicSlots else n.openPublicSlots + 1 }

/-- The slots advertised: without a password all of them are public and open. -/
def slotNums (room : Room) : SearchOutcome SlotNums :=
  if room.roomPassword.isSome then
    (List.range room.maxSlot.toNat).foldlM room.countSlot ⟨0, 0, 0⟩
  else
    return ⟨0, room.maxSlot, 0⟩

/-- `Room::to_RoomDataExternal`. Each attribute asked for goes to the list of its kind, an id of no
    kind to none. -/
def toRoomDataExternal (room : Room) (searchOption : Int32) (incAttrs : List UInt16) :
    SearchOutcome RoomDataExternal := do
  let owner ← room.ownerInfo searchOption
  let n ← room.slotNums
  return {
    serverId := Uint16.newFromValue room.serverId
    worldId := room.worldId
    publicSlotNum := Uint16.newFromValue (room.maxSlot - n.maxPrivateSlots)
    privateSlotNum := Uint16.newFromValue n.maxPrivateSlots
    lobbyId := room.lobbyId
    roomId := room.roomId
    openPublicSlotNum := Uint16.newFromValue n.openPublicSlots
    maxSlot := Uint16.newFromValue room.maxSlot
    openPrivateSlotNum := Uint16.newFromValue n.openPrivateSlots
    curMemberNum := Uint16.newFromValue room.users.size.toUInt16
    passwordSlotMask := room.passwordSlotMask
    owner
    roomGroup := room.groupConfig.map (·.toProtobuf)
    flagAttr := room.flagAttr
    roomSearchableIntAttrExternal :=
      (incAttrs.filterMap room.searchInt).map (·.toProtobuf)
    roomSearchableBinAttrExternal :=
      (incAttrs.filter (· = roomSearchableBinAttrExternal1Id)).map
        fun _ => room.searchBinAttr.toProtobuf
    roomBinAttrExternal :=
      (incAttrs.filterMap
        (attrAt roomBinAttrExternal1Id roomBinAttrExternal2Id room.binAttrExternal)).map
        (·.toProtobuf) }

theorem toRoomDataExternal_roomId {room : Room} {searchOption : Int32} {incAttrs : List UInt16}
    {rd : RoomDataExternal} (h : room.toRoomDataExternal searchOption incAttrs = .ok rd) :
    rd.roomId = room.roomId := by
  obtain ⟨owner, _, h⟩ := bind_eq_ok h
  obtain ⟨n, _, h⟩ := bind_eq_ok h
  cases h
  rfl

end Room

/-! ## 3. The search -/

namespace Np2Structs.SearchRoomRequest

def incAttrs (req : SearchRoomRequest) : SearchOutcome (List UInt16) :=
  .ofExcept (req.attrId.mapM Uint16.getVerified)

/-- The number of the first room wanted, counted from 1; a 0 is taken for 1. -/
def startIndex (req : SearchRoomRequest) : UInt32 :=
  if req.rangeFilterStartIndex = 0 then 1 else req.rangeFilterStartIndex

/-- How many rooms are wanted, 20 at most. -/
def max (req : SearchRoomRequest) : UInt32 :=
  if req.rangeFilterMax = 0 ∨ req.rangeFilterMax > 20 then 20 else req.rangeFilterMax

end Np2Structs.SearchRoomRequest

variable {m : RoomManager} {comId : ComId} {req : SearchRoomRequest} {ids : List UInt64}

namespace RoomManager

/-- The index a search goes through: a world's, else a lobby's, else none. -/
def searchList (m : RoomManager) (comId : ComId) (req : SearchRoomRequest) : Finset UInt64 :=
  if req.worldId ≠ 0 then m.worldRooms.setAt (comId, req.worldId)
  else if req.lobbyId ≠ 0 then m.lobbyRooms.setAt (comId, req.lobbyId)
  else ∅

def matchingRooms (m : RoomManager) (comId : ComId) (req : SearchRoomRequest) :
    List UInt64 → SearchOutcome (List Room)
  | [] => return []
  | roomId :: rest => do
    let room ← .unwrap (m.rooms.get? (comId, roomId)) .roomMissing
    let hit ← room.isMatch req
    let rooms ← m.matchingRooms comId req rest
    return if hit then room :: rooms else rooms

def searchRoom (m : RoomManager) (comId : ComId) (req : SearchRoomRequest) (ids : List UInt64) :
    SearchOutcome SearchRoomResponse := do
  let matching ← m.matchingRooms comId req ids
  if matching.length ≥ req.startIndex.toNat then
    let incAttrs ← req.incAttrs
    let start := req.startIndex.toNat - 1
    let numToGet := min (matching.length - start) req.max.toNat
    let rooms ← ((matching.drop start).take numToGet).mapM
      (·.toRoomDataExternal req.option incAttrs)
    return ⟨req.startIndex, matching.length.toUInt32, rooms⟩
  else
    return ⟨req.startIndex, matching.length.toUInt32, []⟩

theorem matchingRooms_stored {rooms : List Room} (h : m.matchingRooms comId req ids = .ok rooms) :
    ∀ room ∈ rooms, ∃ roomId ∈ ids, m.rooms.get? (comId, roomId) = some room := by
  induction ids generalizing rooms with
  | nil =>
    cases h
    exact fun room hr => absurd hr List.not_mem_nil
  | cons roomId rest ih =>
    obtain ⟨found, hfound, h⟩ := bind_eq_ok h
    obtain ⟨hit, _, h⟩ := bind_eq_ok h
    obtain ⟨others, hothers, h⟩ := bind_eq_ok h
    have hrest : ∀ room ∈ others, ∃ i ∈ roomId :: rest, m.rooms.get? (comId, i) = some room := by
      intro room hr
      obtain ⟨i, hi, hget⟩ := ih hothers room hr
      exact ⟨i, List.mem_cons_of_mem _ hi, hget⟩
    cases h
    intro room hr
    cases hit with
    | false => exact hrest room hr
    | true =>
      rcases List.mem_cons.mp hr with rfl | hr
      · exact ⟨roomId, List.mem_cons_self, unwrap_eq_ok hfound⟩
      · exact hrest room hr

theorem searchRoom_stored {resp : SearchRoomResponse} (h : m.searchRoom comId req ids = .ok resp) :
    ∀ rd ∈ resp.rooms, ∃ roomId room incAttrs, m.rooms.get? (comId, roomId) = some room ∧
      req.incAttrs = .ok incAttrs ∧ room.toRoomDataExternal req.option incAttrs = .ok rd := by
  obtain ⟨found, hfound, h⟩ := bind_eq_ok h
  split at h
  · obtain ⟨incAttrs, hinc, h⟩ := bind_eq_ok h
    obtain ⟨rooms, hrooms, h⟩ := bind_eq_ok h
    cases h
    intro rd hrd
    obtain ⟨room, hroom, hdata⟩ := mem_of_mapM_eq_ok hrooms rd hrd
    obtain ⟨roomId, _, hget⟩ := matchingRooms_stored hfound room
      (List.mem_of_mem_drop (List.mem_of_mem_take hroom))
    exact ⟨roomId, room, incAttrs, hget, hinc, hdata⟩
  · cases h
    exact fun rd hrd => absurd hrd List.not_mem_nil

end RoomManager

end Rpcn
