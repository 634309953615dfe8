/-
  File:      Rpcn/Session/Members.lean
  Subject:   WHO IS IN WHICH ROOM, AND WHO CAN CHANGE THAT.

  A user gets into a room of either manager only by a request of that user. Everybody else's requests
  leave the rooms the user is in as they are, or take the user out: by destroying a room, or by
  writing another one over it.
-/
import Rpcn.Room.Consistency
import Rpcn.Gui.Consistency
import Rpcn.Session.Sound

namespace Rpcn

open Lib HashMap

/-! ## 1. Rooms -/

variable {m m' : RoomManager} {u : UserId} {key key' : ComId × UInt64}

namespace RoomManager

def MemberOf (m : RoomManager) (userId : UserId) (key : ComId × UInt64) : Prop :=
  ∃ room, m.rooms.get? key = some room ∧ userId ∈ room.getRoomUserIds

theorem memberOf_congr (h : m'.rooms = m.rooms) : m'.MemberOf u key ↔ m.MemberOf u key := by
  unfold MemberOf
  rw [h]

theorem MemberOf.of_insert {r : Room} (hr : m'.rooms = m.rooms.insert key r)
    (h : m'.MemberOf u key') : m.MemberOf u key' ∨ key' = key ∧ u ∈ r.getRoomUserIds := by
  obtain ⟨room, hget, hu⟩ := h
  rw [hr, get?_insert] at hget
  split at hget
  · cases hget
    exact Or.inr ⟨by assumption, hu⟩
  · exact Or.inl ⟨room, hget, hu⟩

theorem MemberOf.of_remove (hr : m'.rooms = m.rooms.remove key) (h : m'.MemberOf u key') :
    m.MemberOf u key' := by
  obtain ⟨room, hget, hu⟩ := h
  rw [hr, get?_remove] at hget
  split at hget
  · cases hget
  · exact ⟨room, hget, hu⟩

def enters : RoomOp → Option UserId
  | .createRoom _ _ cinfo _ _ _ => some cinfo.userId
  | .joinRoom _ _ cinfo _ _ => some cinfo.userId
  | _ => none

theorem Change.memberOf {op : RoomOp} {given : Option (ComId × UInt64)}
    (hc : Change m op given m') (h : m'.MemberOf u key) :
    m.MemberOf u key ∨ enters op = some u := by
  cases hc with
  | quiet _ _ hr _ _ _ _ => exact Or.inl ((memberOf_congr hr).mp h)
  | founded comId req cinfo serverId sig now room hf =>
    rcases h.of_insert (m := m) rfl with h | ⟨_, hu⟩
    · exact Or.inl h
    · rw [hf.getRoomUserIds, Finset.mem_singleton] at hu
      exact Or.inr (congrArg some hu.symm)
  | touched _ key₀ room r' hr _ _ hids =>
    rcases h.of_insert (m := m) rfl with h | ⟨rfl, hu⟩
    · exact Or.inl h
    · exact Or.inl ⟨room, hr, hids ▸ hu⟩
  | joined comId req cinfo sig now room r' hr _ _ hids =>
    rcases h.of_insert (m := m) rfl with h | ⟨rfl, hu⟩
    · exact Or.inl h
    · rw [hids, Finset.mem_insert] at hu
      rcases hu with rfl | hu
      · exact Or.inr rfl
      · exact Or.inl ⟨room, hr, hu⟩
  | left comId roomId userId random room r' hr _ _ hids _ =>
    rcases h.of_insert (m := m) rfl with h | ⟨rfl, hu⟩
    · exact Or.inl h
    · rw [hids] at hu
      exact Or.inl ⟨room, hr, Finset.mem_of_mem_erase hu⟩
  | destroyed comId roomId userId random room hr hids =>
    exact Or.inl (h.of_remove rfl)
  | stray => exact Or.inl ((memberOf_congr rfl).mp h)

theorem leaveRoom_gone (h : Inv m) (comId : ComId) (roomId : UInt64) (userId : UserId)
    (random : Nat) :
    ¬ ((RoomOp.leaveRoom comId roomId userId random).call m).2.MemberOf userId
      (comId, roomId) := by
  show ¬ (Call.mapOk _ _ m).2.MemberOf _ _
  rw [Call.mapOk_state]
  have hs := leaveRoom_step h comId roomId userId random
  generalize leaveRoom comId roomId userId random m = x at hs
  obtain ⟨o, m'⟩ := x
  intro ⟨room', hget, hu⟩
  cases hs with
  | refused e hno =>
    rcases hno with hnone | hout
    · rw [hnone] at hget
      cases hget
    · exact hout (h.member hget hu)
  | stray room hr _ hnot =>
    rw [Option.some.inj (hr.symm.trans hget)] at hnot
    exact hnot hu
  | left room r' mid member hr hm hmu hs =>
    subst hmu
    have he := hs.getRoomUserIds (h.wf hr).toSeated hm
    simp only [putRoom, get?_insert, if_true] at hget
    cases hget
    rw [he] at hu
    exact Finset.notMem_erase _ _ hu
  | destroyed room r' mid member hr hm hmu hs =>
    simp [removeRoom, get?_remove] at hget

end RoomManager

/-! ## 2. GUI rooms -/

variable {op : GuiOp} {roomId : GuiRoomId}

namespace GuiRoomManager

theorem MemberOf.of_insert {m m' : GuiRoomManager} {roomId' : GuiRoomId} {r : GuiRoom}
    (hr : m'.rooms = m.rooms.insert roomId r) (h : m'.MemberOf u roomId') :
    m.MemberOf u roomId' ∨ roomId' = roomId ∧ u ∈ r.members.keys := by
  obtain ⟨room, hget, hu⟩ := h
  rw [hr, get?_insert] at hget
  split at hget
  · cases hget
    exact Or.inr ⟨by assumption, hu⟩
  · exact Or.inl ⟨room, hget, hu⟩

/-- The user who a request is from, where it may put one into a room. -/
def enters : GuiOp → Option UserId
  | .createRoomGui _ _ cinfo => some cinfo.userId
  | .joinRoomGui _ cinfo => some cinfo.userId
  | .quickmatchGui _ _ cinfo _ => some cinfo.userId
  | .searchJoinGui _ _ cinfo _ => some cinfo.userId
  | _ => none

theorem enters_of_target {m : GuiRoomManager} {cinfo : ClientInfo}
    (h : m.target op = some (roomId, cinfo)) : enters op = some cinfo.userId := by
  have found : ∀ {c : ClientInfo} {r : Except GuiPanic (Option GuiRoomId)},
      foundFor c r = some (roomId, cinfo) → c = cinfo := by
    intro c r h
    unfold foundFor at h
    split at h
    · exact (Prod.mk.inj (Option.some.inj h)).2
    · cases h
  cases op with
  | joinRoomGui roomId' c => rw [(Prod.mk.inj (Option.some.inj h)).2.symm]; rfl
  | quickmatchGui comId req c order => rw [← found h]; rfl
  | searchJoinGui comId req c order => rw [← found h]; rfl
  | _ => cases h

theorem opened_by {m : GuiRoomManager} (h : op.generated m = some roomId) :
    ∃ (comId : ComId) (cinfo : ClientInfo) (room : GuiRoom), enters op = some cinfo.userId ∧
      room.members.keys = {cinfo.userId} ∧
      (op.call m).2 = m.opened comId roomId room cinfo.userId := by
  cases op with
  | createRoomGui comId req cinfo =>
    refine ⟨comId, cinfo, (GuiRoom.fromProtobuf req comId).addMember cinfo true, rfl, ?_, ?_⟩
    · rw [GuiRoom.addMember, (vacant_fromProtobuf req comId).members, keys_insert]
      rfl
    · rw [GuiOp.call, Call.mapOk_state]
      exact createRoomGui_opens h req cinfo
  | quickmatchGui comId req cinfo order =>
    rw [GuiOp.generated] at h
    split at h
    · rename_i hf
      obtain ⟨room, hcrew, hrun⟩ := quickmatchGui_opens hf h cinfo
      refine ⟨comId, cinfo, room, rfl, ?_, ?_⟩
      · rw [hcrew.members, GuiRoom.addMember, (vacant_fromQuickmatchProtobuf req comId).members,
          keys_insert]
        rfl
      · rw [GuiOp.call, Call.mapOk_state]
        exact hrun
    · cases h
  | _ => cases h

theorem memberOf_of_call {m : GuiRoomManager} (hl : Listed m) (hp : op.Possible m)
    (h : (op.call m).2.MemberOf u roomId) : m.MemberOf u roomId ∨ enters op = some u := by
  cases hgen : op.generated m with
  | some new =>
    obtain ⟨comId, cinfo, room, hby, hkeys, hrun⟩ := opened_by hgen
    rw [hrun] at h
    rcases h.of_insert (m := m) rfl with h | ⟨_, hu⟩
    · exact Or.inl h
    · rw [hkeys, Finset.mem_singleton] at hu
      exact Or.inr (hu ▸ hby)
  | none =>
    have hc := call_change hl op hp
    rw [hgen] at hc
    generalize (op.call m).2 = m' at hc h
    cases hc with
    | quiet => exact Or.inl h
    | admitted _ cinfo roomId₀ room room' hr ht _ _ hmem =>
      rcases h.of_insert (m := m) rfl with h | ⟨rfl, hu⟩
      · exact Or.inl h
      · rw [hmem, keys_insert, Finset.mem_insert] at hu
        rcases hu with rfl | hu
        · exact Or.inr (enters_of_target ht)
        · exact Or.inl ⟨room, hr, hu⟩
    | departed roomId₀ cinfo order random room room' memberLeft hr _ _ hmem _ =>
      rcases h.of_insert (m := m) rfl with h | ⟨rfl, hu⟩
      · exact Or.inl h
      · rw [hmem.keys] at hu
        exact Or.inl ⟨room, hr, Finset.mem_of_mem_erase hu⟩
    | ended roomId₀ cinfo order random room _ hr _ hrooms _ _ =>
      obtain ⟨room', hget, hu⟩ := h
      rw [hrooms, get?_remove] at hget
      split at hget
      · cases hget
      · exact Or.inl ⟨room', hget, hu⟩
    | touched _ roomId₀ room room' hr hcrew _ =>
      rcases h.of_insert (m := m) rfl with h | ⟨rfl, hu⟩
      · exact Or.inl h
      · rw [hcrew.members] at hu
        exact Or.inl ⟨room, hr, hu⟩

end GuiRoomManager

end Rpcn
