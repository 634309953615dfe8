/-
  File:      Rpcn/Room/Authority.lean
  Subject:   WHO MAY CHANGE WHAT with the three setters of the room manager.
-/
import Rpcn.Room.FailedJoin

namespace Rpcn

open Lib Np2Structs Room

variable {r : Room}

variable {r' : Room}

namespace Room

/-! ## 1. What stays -/

structure Undisturbed (r r' : Room) : Prop where
  members : ∀ mid : UInt16, (r'.users[mid]?).map (·.flagAttr) = (r.users[mid]?).map (·.flagAttr)
  slots : r'.slots = r.slots
  owner : r'.owner = r.owner

theorem SameSeats.undisturbed (h : SameSeats r r') : Undisturbed r r' where
  members mid := by
    have hseat := congrArg (Option.map (·.2.2.2)) (h.seats mid)
    rw [Option.map_map, Option.map_map] at hseat
    exact hseat
  slots := h.slots
  owner := h.owner

end Room

/-! ## 2. Authority -/

variable {op : RoomOp}

namespace RoomOp

def setter : RoomOp → Option (ComId × UInt64 × UserId)
  | .setRoomdataExternal comId req userId => some (comId, req.roomId, userId)
  | .setRoomdataInternal comId req userId _ => some (comId, req.roomId, userId)
  | .setRoommemberdataInternal comId req userId _ => some (comId, req.roomId, userId)
  | _ => none

/-- **What a setter may make of a room**, by who calls it: the external attributes are the owner's,
    the internal ones any member's, a member's data is the member's own and the owner's; the rest of
    `set_roomdata_internal` is the owner's. A stranger may do nothing. -/
def Permits (r r' : Room) : RoomOp → Prop
  | .setRoomdataExternal _ _ userId => r.IsOwner userId ∧ r.ExternalOnly r'
  | .setRoomdataInternal _ _ userId _ =>
    userId ∈ r.getRoomUserIds ∧
      (if r.IsOwner userId then r.OwnerOnly r' else r.InternalAttrsOnly r')
  | .setRoommemberdataInternal _ _ userId _ =>
    userId ∈ r.getRoomUserIds ∧ r.MemberDataOnly userId r'
  | _ => False

theorem Permits.undisturbed (h : op.Permits r r') : r.Undisturbed r' := by
  cases op with
  | setRoomdataExternal comId req userId => exact h.2.sameSeats.undisturbed
  | setRoomdataInternal comId req userId now =>
    obtain ⟨-, h⟩ := h
    split at h
    · exact h.sameSeats.undisturbed
    · exact h.ownerOnly.sameSeats.undisturbed
  | setRoommemberdataInternal comId req userId now => exact h.2.sameSeats.undisturbed
  | createRoom => exact h.elim
  | joinRoom => exact h.elim
  | leaveRoom => exact h.elim

end RoomOp

namespace RoomManager

theorem putRoom_self {m : RoomManager} {key : ComId × UInt64} {room : Room}
    (h : m.rooms.get? key = some room) : m.putRoom key room = m :=
  congrArg (fun rooms => { m with rooms }) (HashMap.insert_self h)

section SetOn

variable {m : RoomManager} {comId : ComId} {roomId : UInt64} {α : Type} {c : RoomCall α}

theorem setOn_permitted {P : Room → Room → Prop} (hc : ∀ r, (c r).2 = r ∨ P r (c r).2) :
    (setOn comId roomId c m).2 = m ∨ ∃ r r', m.rooms.get? (comId, roomId) = some r ∧ P r r' ∧
      (setOn comId roomId c m).2 = m.putRoom (comId, roomId) r' := by
  rw [setOn, Call.read_bind_run]
  cases hr : m.rooms.get? (comId, roomId) with
  | none => exact Or.inl rfl
  | some room =>
    rcases hc room with h | h
    · left
      show m.putRoom (comId, roomId) (c room).2 = m
      rw [h, putRoom_self hr]
    · exact Or.inr ⟨room, _, rfl, h, rfl⟩

theorem setOn_unchanged {E : Outcome ErrorType RoomPanic α → Prop}
    (hc : ∀ r, m.rooms.get? (comId, roomId) = some r → E (c r).1 → (c r).2 = r)
    (h : E (setOn comId roomId c m).1) : (setOn comId roomId c m).2 = m := by
  rw [setOn, Call.read_bind_run] at h ⊢
  cases hr : m.rooms.get? (comId, roomId) with
  | none => rfl
  | some room =>
    rw [hr] at h
    show m.putRoom (comId, roomId) (c room).2 = m
    rw [hc room hr h, putRoom_self hr]

end SetOn

end RoomManager

variable (m : RoomManager)

theorem RoomOp.setter_permitted {comId : ComId} {roomId : UInt64} {userId : UserId}
    (hop : op.setter = some (comId, roomId, userId)) :
    (op.call m).2 = m ∨ ∃ r r', m.rooms.get? (comId, roomId) = some r ∧ op.Permits r r' ∧
      (op.call m).2 = m.putRoom (comId, roomId) r' := by
  cases op with
  | setRoomdataExternal comId' req userId' =>
    cases hop
    rw [RoomOp.call, Call.mapOk_state]
    refine RoomManager.setOn_permitted fun r => ?_
    by_cases ho : r.IsOwner userId
    · exact Or.inr ⟨ho, r.setExternal_externalOnly req userId⟩
    · obtain ⟨e, h⟩ := setExternal_of_not_owner ho req
      rw [h]
      exact Or.inl rfl
  | setRoomdataInternal comId' req userId' now =>
    cases hop
    rw [RoomOp.call, Call.mapOk_state]
    refine RoomManager.setOn_permitted fun r => ?_
    cases hm : r.memberOf userId with
    | none =>
      rw [setInternal_of_stranger hm]
      exact Or.inl rfl
    | some mid =>
      obtain ⟨u, hu, hid⟩ := memberOf_some hm
      refine Or.inr ⟨mem_getRoomUserIds.mpr ⟨mid, u, hu, hid⟩, ?_⟩
      by_cases ho : r.IsOwner userId
      · rw [if_pos ho]
        exact setInternal_rule OwnerOnly.refl OwnerOnly.trans
          (fun _ _ => InternalAttrsOnly.ownerOnly) hm
          fun _ => setInternalAsOwner_ownerOnly req
      · rw [if_neg ho]
        refine setInternal_rule InternalAttrsOnly.refl InternalAttrsOnly.trans
          (fun _ _ h => h) hm fun e => absurd ?_ ho
        rw [IsOwner, hm, e]
  | setRoommemberdataInternal comId' req userId' now =>
    cases hop
    rw [RoomOp.call, Call.mapOk_state]
    exact RoomManager.setOn_permitted fun r => setMember_memberDataOnly
  | createRoom => cases hop
  | joinRoom => cases hop
  | leaveRoom => cases hop

theorem RoomOp.silent_unchanged
    (h : (op.call m).1 = .ok (.internalSet none) ∨ (op.call m).1 = .ok (.memberSet none)) :
    (op.call m).2 = m := by
  cases op with
  | setRoomdataInternal comId req userId now =>
    rw [RoomOp.call, Call.mapOk_state]
    have hnone : (RoomManager.setRoomdataInternal comId req userId now m).1 = .ok none := by
      rcases h with h | h <;> obtain ⟨a, ha, e⟩ := Call.mapOk_eq_ok h <;> cases e
      exact ha
    exact RoomManager.setOn_unchanged (E := (· = .ok none))
      (fun r _ hr => setInternal_none (Prod.ext hr rfl)) hnone
  | setRoommemberdataInternal comId req userId now =>
    rw [RoomOp.call, Call.mapOk_state]
    have hnone : (RoomManager.setRoommemberdataInternal comId req userId now m).1 = .ok none := by
      rcases h with h | h <;> obtain ⟨a, ha, e⟩ := Call.mapOk_eq_ok h <;> cases e
      exact ha
    exact RoomManager.setOn_unchanged (E := (· = .ok none))
      (fun r _ hr => setMember_none (Prod.ext hr rfl)) hnone
  | createRoom | joinRoom | leaveRoom | setRoomdataExternal =>
    rcases h with h | h <;> obtain ⟨a, ha, e⟩ := Call.mapOk_eq_ok h <;> cases e

/-- **Authority and frame of the setters**, in every state: a setter changes nothing, or replaces
    the one room it names by one its caller may make of it, with the same member ids, member flags,
    slots and owner; the indexes and the other rooms are not touched. Without a notification nothing
    has changed. -/
theorem room_setters_authority (m : RoomManager) (op : RoomOp) {comId : ComId} {roomId : UInt64}
    {userId : UserId} (hop : op.setter = some (comId, roomId, userId)) :
    ((op.call m).2 = m ∨ ∃ r r', m.rooms.get? (comId, roomId) = some r ∧ op.Permits r r' ∧
      r.Undisturbed r' ∧ (op.call m).2 = m.putRoom (comId, roomId) r') ∧
    ((op.call m).1 = .ok (.internalSet none) ∨ (op.call m).1 = .ok (.memberSet none) →
      (op.call m).2 = m) := by
  refine ⟨?_, op.silent_unchanged m⟩
  rcases op.setter_permitted m hop with h | ⟨r, r', hr, hp, h⟩
  · exact Or.inl h
  · exact Or.inr ⟨r, r', hr, hp, hp.undisturbed, h⟩

def hideRoomForTwo (userId : UserId) : RoomOp :=
  .setRoomdataInternal zeroComId ⟨1, 0x4000000, 0x4000000, [], [], [], []⟩ userId 0

theorem room_setters_authority_flags :
    (∃ es, roomSystem.Run es withRoomForTwo) ∧
    ((hideRoomForTwo 1).call withRoomForTwo).2 ≠ withRoomForTwo ∧
    ∃ r r', withRoomForTwo.rooms.get? (zeroComId, 1) = some r ∧ (hideRoomForTwo 1).Permits r r' ∧
      r.Undisturbed r' ∧
      ((hideRoomForTwo 1).call withRoomForTwo).2 = withRoomForTwo.putRoom (zeroComId, 1) r' := by
  have hne : ((hideRoomForTwo 1).call withRoomForTwo).2 ≠ withRoomForTwo := by
    intro heq
    have hflags : (((hideRoomForTwo 1).call withRoomForTwo).2.rooms.get? (zeroComId, 1)).map
        (·.flagAttr) ≠ (withRoomForTwo.rooms.get? (zeroComId, 1)).map (·.flagAttr) := by decide
    exact hflags (congrArg (fun m => (m.rooms.get? (zeroComId, 1)).map (·.flagAttr)) heq)
  have h := room_setters_authority withRoomForTwo (hideRoomForTwo 1) rfl
  exact ⟨withRoomForTwo_run, hne, h.1.resolve_left hne⟩

end Rpcn
