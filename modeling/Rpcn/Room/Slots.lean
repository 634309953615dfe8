/-
  File:      Rpcn/Room/Slots.lean
  Subject:   SLOTS AND MEMBER IDS (room_manager.rs, `is_slot_private` .. `get_a_slot`).

  Slots are numbered from 1; slot `i` is `slots[i - 1]`. A member id packs the slot into its upper
  twelve bits and a wrapping 4-bit counter into the lower four. Every index and every assertion of
  the source is a panic of the model, so that its absence is a theorem.
-/
import Rpcn.Lib.Call
import Rpcn.Room.Data

namespace Rpcn

open Lib Np2Structs
open Std (ExtTreeMap)

inductive RoomPanic where
  /-- `rooms.get_mut(..).unwrap()`. -/
  | roomMissing
  /-- An index into `slots`. -/
  | slotIndex
  /-- `assert!(!self.slots[slot - 1])` of `occupy_slot`. -/
  | occupySlot
  /-- `unreachable!` of `req_specific_slots`. -/
  | reqSpecificSlots
  /-- `assert!(member_id != 0)` of `leave_room`. -/
  | memberIdZero
  /-- `users.remove(..).unwrap()`, `users.get(..).unwrap()` of a member just looked up. -/
  | userMissing
  /-- An index into `group_config`. -/
  | groupIndex
  /-- `free_slot(..).unwrap()`. -/
  | freeSlot
  /-- `gen_range` over an empty range, or `nth(..).unwrap()` past the end. -/
  | randomUser
  /-- `user_rooms.get_mut(..).unwrap()`. -/
  | userRooms
  /-- `world_rooms.get_mut(..).unwrap()`. -/
  | worldRooms
  /-- `lobby_rooms.get_mut(..).unwrap()`. -/
  | lobbyRooms
  /-- `users.get(&hub).unwrap()` of the star signaling. -/
  | hubMissing
  /-- `unreachable!` of the match on the signaling type. -/
  | signalingType
  deriving DecidableEq, Repr

abbrev RoomCall := Call ErrorType RoomPanic Room

namespace Room

/-! ## 1. One slot -/

def isSlotPrivate (room : Room) (slot : Nat) : Bool :=
  room.passwordSlotMask &&& (64 - slot.toUInt64) != 0

def slotMemberId (room : Room) (slot : Nat) : UInt16 := (slot.toUInt16 <<< 4) + room.memberIdCounter

def markSlot (room : Room) (slot : Nat) : Room :=
  { room with
    slots := room.slots.set (slot - 1) true
    memberIdCounter := (room.memberIdCounter + 1) &&& 0xF }

def occupySlot (slot : Nat) : RoomCall UInt16 := do
  let room ← Call.read
  let taken ← Call.unwrap room.slots[slot - 1]? .slotIndex
  Call.check (!taken) .occupySlot
  Call.write (room.markSlot slot)
  return room.slotMemberId slot

/-- The loop of `req_slot` from slot `i`, `n` rounds before its end. -/
def reqSlotFrom (priv : Bool) : Nat → Nat → RoomCall UInt16
  | _, 0 => Call.fail .roomFull
  | i, n + 1 => do
    let room ← Call.read
    let taken ← Call.unwrap room.slots[i - 1]? .slotIndex
    if !taken && priv == room.isSlotPrivate i then occupySlot i else reqSlotFrom priv (i + 1) n

def reqSlot (priv : Bool) : RoomCall UInt16 := do
  let room ← Call.read
  reqSlotFrom priv 1 room.maxSlot.toNat

/-- `Room::req_specific_slots`: the loop from slot `i`, `n` rounds before its end. -/
def reqSpecificSlots : Nat → Nat → RoomCall UInt16
  | _, 0 => Call.stop .reqSpecificSlots
  | i, n + 1 => do
    let room ← Call.read
    let taken ← Call.unwrap room.slots[i - 1]? .slotIndex
    if !taken then occupySlot i else reqSpecificSlots (i + 1) n

/-- `Room::free_slot`; `none` is its `Err(())`. -/
def freeSlot (memberId : UInt16) : RoomCall (Option Unit) := do
  let room ← Call.read
  let slot := ((memberId >>> 4) - 1).toNat
  let taken ← Call.unwrap room.slots[slot]? .slotIndex
  if taken then
    Call.write { room with slots := room.slots.set slot false }
    return some ()
  else
    return none

/-! ## 2. Groups -/

structure GroupHit where
  groupId : Nat
  curSlotId : Nat
  slotNum : Nat
  deriving DecidableEq, Repr

/-- First pass of `get_a_slot`: the group that carries the join label. -/
def searchLabel (joinLabel password roomPassword : Option (Vector UInt8 8)) :
    List RoomGroupConfig → Nat → Nat → Except ErrorType (Option GroupHit)
  | [], _, _ => .ok none
  | g :: gs, groupId, curSlotId =>
    if g.label = joinLabel then
      if g.withPassword ∧ password ≠ roomPassword then .error .roomPasswordMismatch
      else if g.numMembers ≥ g.slotNum then .error .roomGroupFull
      else .ok (some ⟨groupId, curSlotId, g.slotNum.toNat⟩)
    else searchLabel joinLabel password roomPassword gs (groupId + 1)
      (curSlotId + g.slotNum.toNat)

/-- Second pass of `get_a_slot`: the first group without a label the joiner may enter. There is
    no test that the group has room left. -/
def searchLabelless (password roomPassword : Option (Vector UInt8 8)) :
    List RoomGroupConfig → Nat → Nat → Except ErrorType (Option GroupHit)
  | [], _, _ => .ok none
  | g :: gs, groupId, curSlotId =>
    if g.label = none then
      if g.withPassword ∧ password = none then
        searchLabelless password roomPassword gs (groupId + 1) (curSlotId + g.slotNum.toNat)
      else if g.withPassword ∧ password ≠ roomPassword then .error .roomPasswordMismatch
      else .ok (some ⟨groupId, curSlotId, g.slotNum.toNat⟩)
    else searchLabelless password roomPassword gs (groupId + 1) (curSlotId + g.slotNum.toNat)

/-- Both passes: the group a joiner is sent to, or the refusal. -/
def chooseGroup (room : Room) (joinLabel password : Option (Vector UInt8 8)) :
    Except ErrorType GroupHit := do
  if joinLabel = none then throw .roomGroupNoJoinLabel
  let byLabel ← searchLabel joinLabel password room.roomPassword room.groupConfig 0 1
  match byLabel with
  | some hit => return hit
  | none => do
    let labelless ← searchLabelless password room.roomPassword room.groupConfig 0 1
    match labelless with
    | some hit => return hit
    | none => throw .roomGroupJoinLabelNotFound

/-- `group.num_members += 1` on the group at an index. -/
def bumpGroup (room : Room) (groupId : Nat) : Room :=
  { room with
    groupConfig := room.groupConfig.modify groupId fun g => { g with numMembers := g.numMembers + 1 } }

/-- The writes of `get_a_slot` on the group found: count the member, then take a slot. The label
    of the group stays as it is. -/
def takeGroupSlot (hit : GroupHit) : RoomCall (UInt8 × UInt16) := do
  Call.modify (·.bumpGroup hit.groupId)
  let memberId ← reqSpecificSlots hit.curSlotId hit.slotNum
  return ((hit.groupId + 1).toUInt8, memberId)

/-! ## 3. `get_a_slot` -/

/-- The part of `get_a_slot` for a room without groups: with the right password a private slot,
    and a public one if there is none. -/
def reqAnySlot (password : Option (Vector UInt8 8)) : RoomCall UInt16 := do
  let room ← Call.read
  match password with
  | some _ =>
    if password = room.roomPassword then Call.orElse (reqSlot true) (reqSlot false)
    else Call.fail .roomPasswordMismatch
  | none => reqSlot false

/-- `Room::get_a_slot`: the group id (zero without groups) and the member id of the joiner. -/
def getASlot (joinLabel password : Option (Vector UInt8 8)) : RoomCall (UInt8 × UInt16) := do
  let room ← Call.read
  if room.groupConfig ≠ [] then
    let hit ← Call.ofExcept (room.chooseGroup joinLabel password)
    takeGroupSlot hit
  else
    let memberId ← reqAnySlot password
    return (0, memberId)

end Room

end Rpcn
