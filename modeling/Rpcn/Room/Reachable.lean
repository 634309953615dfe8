/-
  File:      Rpcn/Room/Reachable.lean
  Subject:   WHAT HOLDS IN EVERY STATE of the room manager, without any assumption on the run.

  `Change` says once what one request can do to the manager as a whole; the invariants of runs are
  case analyses over it.
-/
import Rpcn.Room.ManagerSpec

namespace Rpcn

open Lib Np2Structs RoomManager HashMap Call
open Std (ExtTreeMap)

/-! ## 1. One request -/

/-- The room id a request was answered with, if it created a room. -/
def handed : RoomOp × RoomOutcome → Option (ComId × UInt64)
  | (.createRoom comId _ _ _ _ _, .ok (.created resp)) => some (comId, resp.internal.roomId)
  | _ => none

variable {m m' : RoomManager} {key : ComId × UInt64} {room : Room}

namespace RoomManager

inductive Change (m : RoomManager) : RoomOp → Option (ComId × UInt64) → RoomManager → Prop where
  | quiet (op : RoomOp) (m' : RoomManager) (hr : m'.rooms = m.rooms)
      (hw : m'.worldRooms = m.worldRooms) (hl : m'.lobbyRooms = m.lobbyRooms)
      (hu : m'.userRooms = m.userRooms) (hc : ∀ c, m'.cnt c = m.cnt c) : Change m op none m'
  | founded (comId : ComId) (req : CreateJoinRoomRequest) (cinfo : ClientInfo) (serverId : UInt16)
      (sig : ClientSharedSignalingInfo) (now : UInt64) (room : Room)
      (hf : room.Founded req cinfo (m.cnt comId + 1)) :
      Change m (.createRoom comId req cinfo serverId sig now) (some (comId, m.cnt comId + 1))
        (m.stored comId room cinfo.userId)
  | touched (op : RoomOp) (key : ComId × UInt64) (room r' : Room)
      (hr : m.rooms.get? key = some room) (hwf : r'.Wf) (hsame : room.SameRoom r')
      (hids : r'.getRoomUserIds = room.getRoomUserIds) : Change m op none (m.putRoom key r')
  | joined (comId : ComId) (req : JoinRoomRequest) (cinfo : ClientInfo)
      (sig : ClientSharedSignalingInfo) (now : UInt64) (room r' : Room)
      (hr : m.rooms.get? (comId, req.roomId) = some room) (hwf : r'.Wf) (hsame : room.SameRoom r')
      (hids : r'.getRoomUserIds = insert cinfo.userId room.getRoomUserIds) :
      Change m (.joinRoom comId req cinfo sig now) none
        (m.joined (comId, req.roomId) room r' cinfo.userId)
  | left (comId : ComId) (roomId : UInt64) (userId : UserId) (random : Nat) (room r' : Room)
      (hr : m.rooms.get? (comId, roomId) = some room) (hwf : r'.Wf) (hsame : room.SameRoom r')
      (hids : r'.getRoomUserIds = room.getRoomUserIds.erase userId)
      (hne : room.getRoomUserIds ≠ {userId}) :
      Change m (.leaveRoom comId roomId userId random) none
        ((m.putRoom (comId, roomId) r').withdraw userId (comId, roomId))
  | destroyed (comId : ComId) (roomId : UInt64) (userId : UserId) (random : Nat) (room : Room)
      (hr : m.rooms.get? (comId, roomId) = some room) (hids : room.getRoomUserIds = {userId}) :
      Change m (.leaveRoom comId roomId userId random) none
        ((m.removeRoom comId room.indexKey roomId).withdraw userId (comId, roomId))
  | stray (comId : ComId) (roomId : UInt64) (userId : UserId) (random : Nat) (room : Room)
      (hr : m.rooms.get? (comId, roomId) = some room)
      (hin : (comId, roomId) ∈ m.userRooms.setAt userId) (hnot : userId ∉ room.getRoomUserIds) :
      Change m (.leaveRoom comId roomId userId random) none (m.withdraw userId (comId, roomId))

theorem Change.same (m : RoomManager) (op : RoomOp) : Change m op none m :=
  .quiet op m rfl rfl rfl rfl fun _ => rfl

theorem createRoom_change (m : RoomManager) (comId : ComId) (req : CreateJoinRoomRequest)
    (cinfo : ClientInfo) (serverId : UInt16) (sig : ClientSharedSignalingInfo) (now : UInt64) :
    Change m (.createRoom comId req cinfo serverId sig now)
      (handed (.createRoom comId req cinfo serverId sig now,
        ((RoomOp.createRoom comId req cinfo serverId sig now).call m).1))
      ((RoomOp.createRoom comId req cinfo serverId sig now).call m).2 := by
  have hs := createRoom_step m comId req cinfo serverId sig now
  unfold RoomOp.call
  rcases hrun : createRoom comId req cinfo serverId sig now m with ⟨o, m'⟩
  rw [hrun] at hs
  simp only [mapOk, hrun]
  cases hs with
  | refused e _ => exact .same _ _
  | late e _ _ _ _ =>
    refine .quiet _ _ rfl rfl rfl rfl fun c => ?_
    simp only [cnt, get?_insert]
    split
    · rename_i hc
      rw [hc]
      rfl
    · rfl
  | created room resp hf hresp =>
    show Change m _ (some (comId, resp.internal.roomId)) _
    rw [hresp]
    exact .founded comId req cinfo serverId sig now room hf

theorem joinRoom_change (h : Inv m) (comId : ComId) (req : JoinRoomRequest) (cinfo : ClientInfo)
    (sig : ClientSharedSignalingInfo) (now : UInt64) :
    Change m (.joinRoom comId req cinfo sig now) none
      ((RoomOp.joinRoom comId req cinfo sig now).call m).2 := by
  show Change m _ none (mapOk _ _ m).2
  rw [mapOk_state]
  have hs := reqJoinRoom_step m comId req cinfo sig now
  generalize reqJoinRoom comId req cinfo sig now m = x at hs
  obtain ⟨o, m'⟩ := x
  cases hs with
  | absent e => exact .same _ _
  | failed room r' e hr hnew ha =>
    have hwf := h.wf hr
    exact .touched _ _ room r' hr (hwf.letIn hnew ha) (ha.sameRoom hwf)
      (Room.getRoomUserIds_congr (ha.users_of_not_ok hwf rfl))
  | stuck room r' p hr hnew ha =>
    have hwf := h.wf hr
    exact .touched _ _ room r' hr (hwf.letIn hnew ha) (ha.sameRoom hwf)
      (Room.getRoomUserIds_congr (ha.users_of_not_ok hwf rfl))
  | joined room r' memberId previous o ho hr hnew ha =>
    have hwf := h.wf hr
    exact .joined comId req cinfo sig now room r' hr (hwf.letIn hnew ha) (ha.sameRoom hwf)
      (ha.getRoomUserIds hwf)

theorem leaveRoom_change (h : Inv m) (comId : ComId) (roomId : UInt64) (userId : UserId)
    (random : Nat) :
    Change m (.leaveRoom comId roomId userId random) none
      ((RoomOp.leaveRoom comId roomId userId random).call m).2 := by
  show Change m _ none (mapOk _ _ m).2
  rw [mapOk_state]
  have hs := leaveRoom_step h comId roomId userId random
  generalize leaveRoom comId roomId userId random m = x at hs
  obtain ⟨o, m'⟩ := x
  cases hs with
  | refused e hno => exact .same _ _
  | stray room hr hin hnot => exact .stray comId roomId userId random room hr hin hnot
  | left room r' mid member hr hm hu hs =>
    subst hu
    have hwf := h.wf hr
    refine .left comId roomId _ random room r' hr (hwf.released hm hs) hs.sameRoom
      (hs.getRoomUserIds hwf.toSeated hm) fun he => ?_
    have := (hs.gone_iff hwf).mpr ((hwf.toSeated.getRoomUserIds_eq_singleton hm).mp he)
    cases this
  | destroyed room r' mid member hr hm hu hs =>
    subst hu
    have hwf := h.wf hr
    exact .destroyed comId roomId _ random room hr
      ((hwf.toSeated.getRoomUserIds_eq_singleton hm).mpr ((hs.gone_iff hwf).mp rfl))

theorem setOn_change (h : Inv m) {α : Type} {c : RoomCall α} (hc : Keeps Room.SameSeats c)
    (comId : ComId) (roomId : UInt64) (op : RoomOp) :
    Change m op none (setOn comId roomId c m).2 := by
  rcases setOn_step hc m comId roomId with e | ⟨room, r', hr, hs, e⟩
  · rw [e]
    exact .same m op
  · rw [e]
    exact .touched op _ room r' hr ((h.wf hr).sameSeats hs) hs.sameRoom hs.getRoomUserIds

theorem call_change (h : Inv m) (op : RoomOp) :
    Change m op (handed (op, (op.call m).1)) (op.call m).2 := by
  cases op with
  | createRoom comId req cinfo serverId sig now =>
    exact createRoom_change m comId req cinfo serverId sig now
  | joinRoom comId req cinfo sig now => exact joinRoom_change h comId req cinfo sig now
  | leaveRoom comId roomId userId random => exact leaveRoom_change h comId roomId userId random
  | setRoomdataExternal comId req userId =>
    show Change m _ none (mapOk _ _ m).2
    rw [mapOk_state]
    exact setOn_change h (Room.setExternal_keeps req userId) comId req.roomId _
  | setRoomdataInternal comId req userId now =>
    show Change m _ none (mapOk _ _ m).2
    rw [mapOk_state]
    exact setOn_change h (Room.setInternal_keeps req userId now) comId req.roomId _
  | setRoommemberdataInternal comId req userId now =>
    show Change m _ none (mapOk _ _ m).2
    rw [mapOk_state]
    exact setOn_change h (Room.setMember_keeps req userId now) comId req.roomId _

/-! ## 2. The invariant -/

theorem SameRoom.indexKey {r r' : Room} (h : r.SameRoom r') : r'.indexKey = r.indexKey := by
  rw [Room.indexKey, Room.indexKey, h.worldId, h.lobbyId]

theorem inv_new : Inv new where
  wf h := by cases h
  roomId h := by cases h
  indexed h := by cases h
  member h := by cases h

theorem Inv.replace (h : Inv m) {r' : Room} (hr : m.rooms.get? key = some room) (hwf : r'.Wf)
    (hsame : room.SameRoom r') (hrooms : m'.rooms = m.rooms.insert key r')
    (hw : m'.worldRooms = m.worldRooms) (hl : m'.lobbyRooms = m.lobbyRooms)
    (hself : ∀ userId ∈ r'.getRoomUserIds, key ∈ m'.userRooms.setAt userId)
    (hother : ∀ key' r'' userId, key' ≠ key → m.rooms.get? key' = some r'' →
      userId ∈ r''.getRoomUserIds → key' ∈ m'.userRooms.setAt userId) : Inv m' := by
  have back : ∀ {key' r''}, m'.rooms.get? key' = some r'' →
      (key' = key ∧ r'' = r') ∨ (key' ≠ key ∧ m.rooms.get? key' = some r'') := by
    intro key' r'' hget
    rw [hrooms, get?_insert] at hget
    by_cases e : key' = key
    · rw [if_pos e] at hget
      exact Or.inl ⟨e, (Option.some.inj hget).symm⟩
    · rw [if_neg e] at hget
      exact Or.inr ⟨e, hget⟩
  constructor
  · intro key' r'' hget
    rcases back hget with ⟨_, rfl⟩ | ⟨_, hget⟩
    · exact hwf
    · exact h.wf hget
  · intro c i r'' hget
    rcases back hget with ⟨rfl, rfl⟩ | ⟨_, hget⟩
    · rw [hsame.roomId]
      exact h.roomId hr
    · exact h.roomId hget
  · intro c i r'' hget
    rw [indexSet_congr hw hl]
    rcases back hget with ⟨rfl, rfl⟩ | ⟨_, hget⟩
    · rw [SameRoom.indexKey hsame]
      exact h.indexed hr
    · exact h.indexed hget
  · intro key' r'' userId hget hmem
    rcases back hget with ⟨rfl, rfl⟩ | ⟨hne, hget⟩
    · exact hself userId hmem
    · exact hother key' r'' userId hne hget hmem

theorem Inv.stored (h : Inv m) {comId : ComId} {req : CreateJoinRoomRequest} {cinfo : ClientInfo}
    {roomId : UInt64} (hf : room.Founded req cinfo roomId) :
    Inv (m.stored comId room cinfo.userId) := by
  have back : ∀ {key r}, (m.rooms.insert (comId, room.roomId) room).get? key = some r →
      (key = (comId, room.roomId) ∧ r = room) ∨ m.rooms.get? key = some r := by
    intro key r hget
    rw [get?_insert] at hget
    split at hget
    · rename_i e
      exact Or.inl ⟨e, (Option.some.inj hget).symm⟩
    · exact Or.inr hget
  have hindex : ∀ c k, (m.stored comId room cinfo.userId).indexSet c k =
      (m.addIndex comId room.indexKey room.roomId).indexSet c k :=
    fun c k => indexSet_congr rfl rfl c k
  constructor
  · intro key r hget
    rcases back hget with ⟨_, rfl⟩ | hget
    · exact hf.wf
    · exact h.wf hget
  · intro c i r hget
    rcases back hget with ⟨e, rfl⟩ | hget
    · exact (Prod.ext_iff.mp e).2.symm
    · exact h.roomId hget
  · intro c i r hget
    rw [hindex, indexSet_addIndex]
    rcases back hget with ⟨e, rfl⟩ | hget
    · obtain ⟨hc, hi⟩ := Prod.mk.inj e
      rw [if_pos ⟨hc, rfl⟩, hi]
      exact Finset.mem_insert_self _ _
    · have hi := h.indexed hget
      split
      · rename_i e
        rw [← e.1, ← e.2]
        exact Finset.mem_insert_of_mem hi
      · exact hi
  · intro key r userId hget hmem
    show key ∈ (m.userRooms.addTo cinfo.userId (comId, room.roomId)).setAt userId
    rw [setAt_addTo]
    rcases back hget with ⟨rfl, rfl⟩ | hget
    · rw [hf.getRoomUserIds, Finset.mem_singleton] at hmem
      rw [if_pos hmem]
      exact Finset.mem_insert_self _ _
    · have hk := h.member hget hmem
      split
      · rename_i e
        rw [← e]
        exact Finset.mem_insert_of_mem hk
      · exact hk

theorem Inv.removeRoom (h : Inv m) (comId : ComId) (roomId : UInt64) (k : IndexKey) :
    Inv (m.removeRoom comId k roomId) := by
  have back : ∀ {key r}, (m.rooms.remove (comId, roomId)).get? key = some r →
      key ≠ (comId, roomId) ∧ m.rooms.get? key = some r := by
    intro key r hget
    rw [get?_remove] at hget
    split at hget
    · cases hget
    · rename_i e
      exact ⟨e, hget⟩
  constructor
  · intro key r hget
    exact h.wf (back hget).2
  · intro c i r hget
    exact h.roomId (back hget).2
  · intro c i r hget
    obtain ⟨hne, hget⟩ := back hget
    have hi := h.indexed hget
    rw [indexSet_removeRoom]
    split
    · rename_i e
      rw [← e.1, ← e.2]
      refine Finset.mem_erase.mpr ⟨fun hi => hne ?_, hi⟩
      rw [e.1, hi]
    · exact hi
  · intro key r userId hget hmem
    rw [userRooms_removeRoom]
    exact h.member (back hget).2 hmem

theorem Inv.withdraw (h : Inv m) {userId : UserId}
    (hnot : ∀ r, m.rooms.get? key = some r → userId ∉ r.getRoomUserIds) :
    Inv (m.withdraw userId key) := by
  refine ⟨h.wf, h.roomId, fun hget => ?_, ?_⟩
  · rw [indexSet_withdraw]
    exact h.indexed hget
  · intro key' r userId' hget hmem
    have hk := h.member hget hmem
    rw [setAt_withdraw]
    split
    · rename_i e
      subst e
      refine Finset.mem_erase.mpr ⟨fun e' => ?_, hk⟩
      subst e'
      exact hnot r hget hmem
    · exact hk

theorem Inv.change {op : RoomOp} {given : Option (ComId × UInt64)} (h : Inv m)
    (hc : Change m op given m') : Inv m' := by
  cases hc with
  | quiet _ _ hr hw hl hu _ =>
    constructor
    · intro key r hget
      exact h.wf (by rwa [hr] at hget)
    · intro c i r hget
      exact h.roomId (by rwa [hr] at hget)
    · intro c i r hget
      rw [indexSet_congr hw hl]
      exact h.indexed (by rwa [hr] at hget)
    · intro key r userId hget hmem
      rw [hu]
      exact h.member (by rwa [hr] at hget) hmem
  | founded comId req cinfo serverId sig now room hf => exact h.stored hf
  | touched _ key room r' hr hwf hsame hids =>
    refine h.replace hr hwf hsame rfl rfl rfl ?_ fun key' r'' userId _ => h.member
    intro userId hmem
    rw [hids] at hmem
    exact h.member hr hmem
  | joined comId req cinfo sig now room r' hr hwf hsame hids =>
    have hid : room.roomId = req.roomId := h.roomId hr
    refine h.replace hr hwf hsame rfl rfl rfl ?_ ?_
    · intro userId hmem
      show _ ∈ (m.userRooms.addTo cinfo.userId (comId, room.roomId)).setAt userId
      rw [setAt_addTo, hid]
      rw [hids, Finset.mem_insert] at hmem
      split
      · exact Finset.mem_insert_self _ _
      · rename_i hne
        exact h.member hr (hmem.resolve_left hne)
    · intro key' r'' userId _ hget hmem
      have hk := h.member hget hmem
      show _ ∈ (m.userRooms.addTo cinfo.userId (comId, room.roomId)).setAt userId
      rw [setAt_addTo]
      split
      · rename_i e
        rw [← e]
        exact Finset.mem_insert_of_mem hk
      · exact hk
  | left comId roomId userId random room r' hr hwf hsame hids hne =>
    have hput : Inv (m.putRoom (comId, roomId) r') := by
      refine h.replace hr hwf hsame rfl rfl rfl ?_ fun key' r'' userId' _ => h.member
      intro userId' hmem
      rw [hids] at hmem
      exact h.member hr (Finset.mem_of_mem_erase hmem)
    refine hput.withdraw fun r hget => ?_
    have hget : (m.rooms.insert (comId, roomId) r').get? (comId, roomId) = some r := hget
    rw [get?_insert, if_pos rfl] at hget
    rw [← Option.some.inj hget, hids]
    exact Finset.notMem_erase _ _
  | destroyed comId roomId userId random room hr hids =>
    refine (h.removeRoom comId roomId room.indexKey).withdraw fun r hget => ?_
    have hget : (m.rooms.remove (comId, roomId)).get? (comId, roomId) = some r := hget
    rw [get?_remove, if_pos rfl] at hget
    cases hget
  | stray comId roomId userId random room hr hin hnot =>
    refine h.withdraw fun r hget => ?_
    rw [hr] at hget
    rw [← Option.some.inj hget]
    exact hnot

end RoomManager

theorem inv_of_run {es : List (RoomOp × RoomOutcome)} (h : roomSystem.Run es m) : m.Inv :=
  h.invariant inv_new fun _ op hI _ => hI.change (call_change hI op)

/-! ## 3. Concrete requests -/

def zeroComId : ComId := Vector.replicate 12 0

def player (userId : UserId) : ClientInfo := ⟨userId, "", "", ""⟩

def roomForTwo : CreateJoinRoomRequest where
  worldId := 1
  lobbyId := 0
  maxSlot := 2
  flagAttr := 0
  roomBinAttrInternal := []
  roomSearchableIntAttrExternal := []
  roomSearchableBinAttrExternal := []
  roomBinAttrExternal := []
  roomPassword := []
  groupConfig := []
  passwordSlotMask := 0
  allowedUser := []
  blockedUser := []
  joinRoomGroupLabel := []
  roomMemberBinAttrInternal := []
  teamId := some ⟨0⟩
  sigOptParam := none

def openRoomForTwo : RoomOp :=
  .createRoom zeroComId roomForTwo (player 1) 0 ClientSharedSignalingInfo.new 0

theorem roomForTwo_creatable :
    Creatable roomForTwo ClientSharedSignalingInfo.new 0 := by
  constructor <;> decide

theorem handed_openRoomForTwo (m : RoomManager) :
    ∃ i, handed (openRoomForTwo, (openRoomForTwo.call m).1) = some (zeroComId, i) := by
  obtain ⟨resp, hresp⟩ :=
    createRoom_plain roomForTwo_creatable rfl rfl m zeroComId (player 1) 0
  have e : (openRoomForTwo.call m).1 = .ok (.created resp) := by
    show (mapOk RoomReply.created (createRoom zeroComId roomForTwo (player 1) 0
      ClientSharedSignalingInfo.new 0) m).1 = _
    unfold mapOk
    rcases hrun : createRoom zeroComId roomForTwo (player 1) 0
      ClientSharedSignalingInfo.new 0 m with ⟨o, m'⟩
    rw [hrun] at hresp
    cases hresp
    rfl
  rw [e]
  exact ⟨resp.internal.roomId, rfl⟩

end Rpcn
