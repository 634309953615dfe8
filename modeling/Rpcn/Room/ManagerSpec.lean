/-
  File:      Rpcn/Room/ManagerSpec.lean
  Subject:   WHAT EACH REQUEST CAN DO TO THE ROOM MANAGER: one inversion for each.

  The setters move nobody (`Rpcn/Room/SetterSpec.lean`); here are the requests that do.
-/
import Rpcn.Room.JoinLeave
import Rpcn.Room.SetterSpec

namespace Rpcn

open Lib Np2Structs Call Room
open Std (ExtTreeMap)

variable {req : CreateJoinRoomRequest} {base r r' room : Room} {groupId : UInt8} {roomId : UInt64}
  {α : Type}

namespace Room

/-! ## 1. Creation -/

structure FromRequest (req : CreateJoinRoomRequest) (base : Room) : Prop where
  worldId : base.worldId = req.worldId
  lobbyId : base.lobbyId = req.lobbyId
  maxSlot : base.maxSlot = req.maxSlot.toUInt16
  groupConfig : base.groupConfig = req.groupConfig.mapIdx fun i gc =>
    RoomGroupConfig.fromProtobuf gc (i + 1).toUInt8
  passwordSlotMask : base.passwordSlotMask = req.passwordSlotMask
  slots : base.slots = List.replicate req.maxSlot.toUInt16.toNat false
  counter : base.memberIdCounter = 0
  users : base.users = ∅

theorem fromProtobuf_built {now : UInt64} (h : fromProtobuf req now = .ok base) :
    FromRequest req base ∧ base.flagAttr = req.flagAttr &&& ~~~protectedRoomFlags ∧
      SignalParam.ofRequest req.sigOptParam = .ok base.signalingParam := by
  unfold fromProtobuf at h
  obtain ⟨_, _, h⟩ := except_bind_ok h
  obtain ⟨_, _, h⟩ := except_bind_ok h
  obtain ⟨_, _, h⟩ := except_bind_ok h
  obtain ⟨_, _, h⟩ := except_bind_ok h
  obtain ⟨sig, hsig, h⟩ := except_bind_ok h
  cases h
  exact ⟨by constructor <;> rfl, rfl, hsig⟩

theorem fromProtobuf_ok {now : UInt64} (h : fromProtobuf req now = .ok base) :
    FromRequest req base :=
  (fromProtobuf_built h).1

/-- **A founded room**: the creator alone, in slot 1, with the owner's flag. Where there are groups
    their slots add up to the room's as 32-bit numbers, and the creator is in the first. -/
structure Founded (req : CreateJoinRoomRequest) (cinfo : ClientInfo) (roomId : UInt64)
    (room : Room) : Prop where
  req_pos : req.maxSlot ≠ 0
  req_le : req.maxSlot ≤ 64
  roomId : room.roomId = roomId
  maxSlot : room.maxSlot = req.maxSlot.toUInt16
  slots : room.slots = (List.replicate req.maxSlot.toUInt16.toNat false).set 0 true
  counter : room.memberIdCounter = 1
  owner : room.owner = 16
  creator : ∃ u groupId, room.users =
    (∅ : ExtTreeMap UInt16 RoomUser).insert 16 (RoomManager.creator u cinfo 16 groupId) ∧
    ((req.groupConfig = [] ∧ room.groupConfig = [] ∧ groupId = 0) ∨
      ∃ g gs label, (req.groupConfig.mapIdx fun i gc =>
          RoomGroupConfig.fromProtobuf gc (i + 1).toUInt8) = g :: gs ∧
        ((g :: gs).map (·.slotNum)).sum = room.maxSlot.toUInt32 ∧ groupId = 1 ∧
        room.groupConfig =
          { g with label := some label, numMembers := g.numMembers + 1 } :: gs)

theorem enterFirstGroup_ok (h : r.enterFirstGroup req = .ok (r', groupId)) :
    (r.groupConfig = [] ∧ ¬ (r.passwordSlotMask ≠ 0 ∧ r.roomPassword = none) ∧ r' = r ∧
      groupId = 0) ∨
    ∃ g gs label, r.groupConfig = g :: gs ∧
      ((g :: gs).map (·.slotNum)).sum = r.maxSlot.toUInt32 ∧
      ¬ ((g :: gs).any (·.withPassword) ∧ r.roomPassword = none) ∧ groupId = 1 ∧
      r' = { r with groupConfig :=
        { g with label := some label, numMembers := g.numMembers + 1 } :: gs } := by
  unfold enterFirstGroup at h
  split at h
  · rename_i hg
    split at h
    · cases h
    · rename_i hpw
      cases h
      exact Or.inl ⟨hg, hpw, rfl, rfl⟩
  · rename_i g gs hg
    split at h
    · cases h
    rename_i hsum
    split at h
    · cases h
    rename_i hpw
    split at h
    · cases h
    split at h
    · cases h
    rename_i label _
    split at h
    · cases h
      rw [hg] at hsum hpw
      exact Or.inr ⟨g, gs, label, hg, not_not.mp hsum, hpw, rfl, rfl⟩
    · cases h

theorem enterFirstGroup_groupsOnly (h : r.enterFirstGroup req = .ok (r', groupId)) :
    r' = { r with groupConfig := r'.groupConfig } := by
  rcases enterFirstGroup_ok h with ⟨-, -, rfl, -⟩ | ⟨g, gs, label, -, -, -, -, e⟩
  · rfl
  · rw [e]

theorem maxSlot_toNat {n : UInt32} (h : n ≤ 64) : n.toUInt16.toNat = n.toNat := by
  have h' : n.toNat ≤ 64 := UInt32.le_iff_toNat_le.mp h
  rw [UInt32.toNat_toUInt16]
  omega

theorem Founded.member {cinfo : ClientInfo} (h : Founded req cinfo roomId room) {m : UInt16}
    {u : RoomUser} (hm : room.users[m]? = some u) :
    m = 16 ∧ u.userId = cinfo.userId ∧ u.memberId = 16 ∧
      u.isOwner = true ∧ u.groupId.toNat ≤ room.groupConfig.length := by
  obtain ⟨v, groupId, hu, hgrp⟩ := h.creator
  rw [hu, TreeMap.getElem?_insert] at hm
  by_cases e : m = 16
  swap
  · rw [if_neg e] at hm
    cases hm
  rw [if_pos e] at hm
  cases hm
  refine ⟨e, rfl, rfl, ?_, ?_⟩
  · show (roomMemberFlagAttrOwner &&& roomMemberFlagAttrOwner != 0) = true
    decide
  rcases hgrp with ⟨_, _, rfl⟩ | ⟨g, gs, label, _, _, rfl, hgc⟩
  · exact Nat.zero_le _
  · rw [hgc]
    exact Nat.le_add_left 1 _

theorem Founded.wf {cinfo : ClientInfo} (h : Founded req cinfo roomId room) : Wf room := by
  have hpos : 0 < req.maxSlot.toNat := by
    rw [Nat.pos_iff_ne_zero]
    exact fun e => h.req_pos (UInt32.toNat_inj.mp e)
  have hle : req.maxSlot.toNat ≤ 64 := UInt32.le_iff_toNat_le.mp h.req_le
  have hmax : room.maxSlot.toNat = req.maxSlot.toNat := by rw [h.maxSlot, maxSlot_toNat h.req_le]
  refine ⟨⟨?_, ?_, ?_⟩, ?_⟩
  · constructor
    · rw [hmax]; exact hpos
    · rw [hmax]; exact hle
    · rw [hmax, h.slots, List.length_set, List.length_replicate, maxSlot_toNat h.req_le]
    · rw [h.counter]; decide
    · intro m u hm
      obtain ⟨rfl, _, e, _⟩ := h.member hm
      exact e
    · intro m u hm
      obtain ⟨rfl, _⟩ := h.member hm
      decide
    · intro m u hm
      obtain ⟨rfl, _⟩ := h.member hm
      show room.slots[0]? = some true
      rw [h.slots, List.getElem?_set_self]
      rw [List.length_replicate, maxSlot_toNat h.req_le]
      exact hpos
    · intro m m' u u' hm hm' _
      rw [(h.member hm).1, (h.member hm').1]
  · intro m m' u u' hm hm' _
    rw [(h.member hm).1, (h.member hm').1]
  · intro m u hm
    exact (h.member hm).2.2.2.2
  · constructor
    · obtain ⟨v, groupId, hu, _⟩ := h.creator
      rw [h.owner, hu]
      exact ⟨_, ExtTreeMap.getElem?_insert_self⟩
    · intro m u hm
      obtain ⟨rfl, _, _, e, _⟩ := h.member hm
      exact ⟨fun _ => h.owner.symm, fun _ => e⟩

theorem Founded.getRoomUserIds {cinfo : ClientInfo} (h : Founded req cinfo roomId room) :
    room.getRoomUserIds = {cinfo.userId} := by
  ext userId
  rw [mem_getRoomUserIds, Finset.mem_singleton]
  constructor
  · rintro ⟨m, u, hm, rfl⟩
    exact (h.member hm).2.1
  · rintro rfl
    obtain ⟨v, groupId, hu, _⟩ := h.creator
    refine ⟨16, RoomManager.creator v cinfo 16 groupId, ?_, rfl⟩
    rw [hu]
    exact ExtTreeMap.getElem?_insert_self

theorem mapM_some {β : Type} {f : α → Option β} {l : List α} (h : ∀ a ∈ l, ∃ b, f a = some b) :
    ∃ bs, l.mapM f = some bs := by
  induction l with
  | nil => exact ⟨[], rfl⟩
  | cons a l ih =>
    obtain ⟨b, hb⟩ := h a List.mem_cons_self
    obtain ⟨bs, hbs⟩ := ih fun x hx => h x (List.mem_cons_of_mem _ hx)
    exact ⟨b :: bs, by simp [List.mapM_cons, hb, hbs]⟩

theorem Seated.shown (h : Seated r) : ∃ d, r.toRoomDataInternal = some d ∧ d.roomId = r.roomId := by
  have hmem : ∀ p ∈ r.users.toList, ∃ d, r.toRoomMemberDataInternal p.2 = some d := by
    rintro ⟨m, u⟩ hp
    have hle := h.group_le (ExtTreeMap.mem_toList_iff_getElem?_eq_some.mp hp)
    unfold toRoomMemberDataInternal
    by_cases h0 : u.groupId = 0
    · simp [h0]
    · have hpos : u.groupId.toNat ≠ 0 := fun e => h0 (UInt8.toNat_inj.mp e)
      have hlt : u.groupId.toNat - 1 < r.groupConfig.length := by omega
      simp [h0, List.getElem?_eq_getElem hlt]
  obtain ⟨ds, hds⟩ := mapM_some hmem
  unfold toRoomDataInternal
  rw [hds]
  exact ⟨_, rfl, rfl⟩

end Room

/-! ## 2. The indexes of rooms -/

inductive IndexKey where
  | world (worldId : UInt32)
  | lobby (lobbyId : UInt64)
  deriving DecidableEq, Repr

def Room.indexKey (r : Room) : IndexKey :=
  if r.lobbyId = 0 then .world r.worldId else .lobby r.lobbyId

variable (m : RoomManager) (c c' : ComId) (i : UInt64) (userId : UserId) (comId : ComId)

variable (cinfo : ClientInfo) (k k' : IndexKey)

namespace RoomManager

def indexSet (m : RoomManager) (comId : ComId) : IndexKey → Finset UInt64
  | .world worldId => m.worldRooms.setAt (comId, worldId)
  | .lobby lobbyId => m.lobbyRooms.setAt (comId, lobbyId)

def addIndex (m : RoomManager) (comId : ComId) (key : IndexKey) (roomId : UInt64) : RoomManager :=
  match key with
  | .world worldId => { m with worldRooms := m.worldRooms.addTo (comId, worldId) roomId }
  | .lobby lobbyId => { m with lobbyRooms := m.lobbyRooms.addTo (comId, lobbyId) roomId }

def dropIndex (m : RoomManager) (comId : ComId) (key : IndexKey) (roomId : UInt64) : RoomManager :=
  match key with
  | .world worldId => { m with worldRooms := m.worldRooms.dropFrom (comId, worldId) roomId }
  | .lobby lobbyId => { m with lobbyRooms := m.lobbyRooms.dropFrom (comId, lobbyId) roomId }

theorem indexSet_congr {m m' : RoomManager} (hw : m'.worldRooms = m.worldRooms)
    (hl : m'.lobbyRooms = m.lobbyRooms) (c : ComId) (k : IndexKey) :
    m'.indexSet c k = m.indexSet c k := by
  cases k with
  | world w => rw [indexSet, indexSet, hw]
  | lobby l => rw [indexSet, indexSet, hl]

theorem indexSet_addIndex (i : UInt64) :
    (m.addIndex c k i).indexSet c' k' =
      if c' = c ∧ k' = k then insert i (m.indexSet c k) else m.indexSet c' k' := by
  cases k <;> cases k' <;> simp [addIndex, indexSet, Prod.ext_iff]

theorem indexSet_dropIndex (i : UInt64) :
    (m.dropIndex c k i).indexSet c' k' =
      if c' = c ∧ k' = k then (m.indexSet c k).erase i else m.indexSet c' k' := by
  cases k <;> cases k' <;> simp [dropIndex, indexSet, Prod.ext_iff]

/-- The room under `(c, i)`, filed under `k`, disappears. -/
def removeRoom (m : RoomManager) (c : ComId) (k : IndexKey) (i : UInt64) : RoomManager :=
  { m.dropIndex c k i with rooms := m.rooms.remove (c, i) }

theorem indexSet_removeRoom (i : UInt64) :
    (m.removeRoom c k i).indexSet c' k' =
      if c' = c ∧ k' = k then (m.indexSet c k).erase i else m.indexSet c' k' := by
  rw [← indexSet_dropIndex]
  exact indexSet_congr rfl rfl c' k'

theorem indexSet_withdraw (key : ComId × UInt64) (c : ComId) (k : IndexKey) :
    (m.withdraw userId key).indexSet c k = m.indexSet c k :=
  indexSet_congr rfl rfl c k

theorem userRooms_removeRoom : (m.removeRoom c k i).userRooms = m.userRooms := by
  cases k <;> rfl

theorem setAt_withdraw (userId' : UserId) (key : ComId × UInt64) :
    (m.withdraw userId key).userRooms.setAt userId' =
      if userId' = userId then (m.userRooms.setAt userId).erase key
      else m.userRooms.setAt userId' :=
  HashMap.setAt_dropFrom _ _ _ _

def cnt (m : RoomManager) (comId : ComId) : UInt64 := (m.roomCnt.get? comId).getD 0

def stored (m : RoomManager) (comId : ComId) (room : Room) (userId : UserId) : RoomManager :=
  { m.addIndex comId room.indexKey room.roomId with
    roomCnt := m.roomCnt.insert comId room.roomId
    rooms := m.rooms.insert (comId, room.roomId) room
    userRooms := m.userRooms.addTo userId (comId, room.roomId) }

theorem stored_self (room : Room) (userId : UserId) :
    (m.stored comId room userId).rooms.get? (comId, room.roomId) = some room := by
  show (m.rooms.insert (comId, room.roomId) room).get? (comId, room.roomId) = some room
  rw [HashMap.get?_insert, if_pos rfl]

structure Creatable (req : CreateJoinRoomRequest) (sig : ClientSharedSignalingInfo)
    (now : UInt64) : Prop where
  pos : req.maxSlot ≠ 0
  le : req.maxSlot ≤ 64
  room : (Room.fromProtobuf req now).isOk = true
  user : (RoomUser.fromCreateJoinRoomRequest req sig now).isOk = true

/-- **Everything `create_room` can do to the manager**: refuse without a trace, refuse over the
    groups after the counter's entry was made, or file a founded room under the next id. -/
inductive CreateStep (m : RoomManager) (comId : ComId) (req : CreateJoinRoomRequest)
    (cinfo : ClientInfo) (sig : ClientSharedSignalingInfo) (now : UInt64) :
    Outcome ErrorType RoomPanic CreateRoomResponse → RoomManager → Prop where
  | refused (e : ErrorType) (h : ¬ Creatable req sig now) :
      CreateStep m comId req cinfo sig now (.err e) m
  | late (e : ErrorType) (r : Room) (hgroups : r.groupConfig.length = req.groupConfig.length)
      (hmask : r.passwordSlotMask = req.passwordSlotMask) (hg : r.enterFirstGroup req = .error e) :
      CreateStep m comId req cinfo sig now (.err e)
        { m with roomCnt := m.roomCnt.insert comId (m.cnt comId) }
  | created (room : Room) (resp : CreateRoomResponse)
      (hf : Room.Founded req cinfo (m.cnt comId + 1) room)
      (hresp : resp.internal.roomId = m.cnt comId + 1) :
      CreateStep m comId req cinfo sig now (.ok resp) (m.stored comId room cinfo.userId)

theorem unfailingCreateRoom_run (h : room.Seated) (hroom : room.roomId = roomId) (n : UInt64) :
    ∃ resp, resp.internal.roomId = roomId ∧ unfailingCreateRoom roomId comId room cinfo
        { m with roomCnt := (m.roomCnt.insert comId n).insert comId roomId } =
      (.ok resp, m.stored comId room cinfo.userId) := by
  subst hroom
  obtain ⟨d, hd, hid⟩ := h.shown
  refine ⟨⟨d, room.toOptParam⟩, hid, ?_⟩
  unfold unfailingCreateRoom
  simp only [bind_run, modify_run, hd, unwrap_some, pure_run,
    HashMap.insert_insert]
  unfold stored addIndex indexKey
  by_cases hl : room.lobbyId = 0
  · simp only [if_pos hl]
  · simp only [if_neg hl]

theorem claimedBy_founded {serverId : UInt16} (hb : FromRequest req base)
    (hpos : req.maxSlot ≠ 0) (hle : req.maxSlot ≤ 64)
    (hg : ((base.markSlot 1).claimedBy 16 roomId serverId).enterFirstGroup req =
      .ok (r', groupId)) (u : RoomUser) :
    Founded req cinfo roomId
      { r' with users := r'.users.insert 16 (creator u cinfo 16 groupId) } := by
  have hslots : (base.markSlot 1).slots =
      (List.replicate req.maxSlot.toUInt16.toNat false).set 0 true := by
    rw [markSlot, hb.slots]
  have hcnt : (base.markSlot 1).memberIdCounter = 1 := by
    rw [markSlot, hb.counter]
    rfl
  rcases enterFirstGroup_ok hg with
    ⟨h0, -, rfl, rfl⟩ | ⟨g, gs, label, hgc, hsum, -, rfl, rfl⟩
  · refine ⟨hpos, hle, rfl, hb.maxSlot, hslots, hcnt, rfl, ⟨u, 0, ?_, Or.inl ⟨?_, h0, rfl⟩⟩⟩
    · show base.users.insert 16 _ = _
      rw [hb.users]
    · have h0 : base.groupConfig = [] := h0
      rw [hb.groupConfig, List.mapIdx_eq_nil_iff] at h0
      exact h0
  · refine ⟨hpos, hle, rfl, hb.maxSlot, hslots, hcnt, rfl,
      ⟨u, 1, ?_, Or.inr ⟨g, gs, label, ?_, hsum, rfl, rfl⟩⟩⟩
    · show base.users.insert 16 _ = _
      rw [hb.users]
    · rw [← hb.groupConfig]
      exact hgc

theorem createRoom_step (req : CreateJoinRoomRequest) (cinfo : ClientInfo) (serverId : UInt16)
    (sig : ClientSharedSignalingInfo) (now : UInt64) :
    CreateStep m comId req cinfo sig now (createRoom comId req cinfo serverId sig now m).1
      (createRoom comId req cinfo serverId sig now m).2 := by
  unfold createRoom
  by_cases hmax : req.maxSlot = 0 ∨ req.maxSlot > 64
  · rw [if_pos hmax]
    refine .refused _ fun h => ?_
    exact hmax.elim h.pos (Std.not_lt.mpr h.le)
  rw [if_neg hmax]
  obtain ⟨hpos, hle⟩ := not_or.mp hmax
  cases hb : fromProtobuf req now with
  | error e => exact .refused e fun h => by simpa [hb, Except.isOk, Except.toBool] using h.room
  | ok base =>
  cases hu : RoomUser.fromCreateJoinRoomRequest req sig now with
  | error e => exact .refused e fun h => by simpa [hu, Except.isOk, Except.toBool] using h.user
  | ok u =>
  have hbase := fromProtobuf_ok hb
  have hocc : occupySlot 1 base = (.ok 16, base.markSlot 1) := by
    have hn : 0 < req.maxSlot.toUInt16.toNat := by
      rw [maxSlot_toNat (Std.not_lt.mp hle), Nat.pos_iff_ne_zero]
      exact fun e => hpos (UInt32.toNat_inj.mp e)
    have hfree : base.slots[1 - 1]? = some false := by
      rw [hbase.slots, List.getElem?_replicate, if_pos hn]
    have hid : base.slotMemberId 1 = 16 := by
      rw [slotMemberId, hbase.counter]
      rfl
    rw [occupySlot_free hfree, hid]
  simp only [bind_run, ofExcept_ok, read_run, write_run, onLocal, hocc]
  cases hg : ((base.markSlot 1).claimedBy 16 (m.cnt comId + 1) serverId).enterFirstGroup req with
  | error e =>
    rw [cnt] at hg
    simp only [hg, ofExcept_error]
    refine .late e ((base.markSlot 1).claimedBy 16 _ serverId) ?_ hbase.passwordSlotMask hg
    show base.groupConfig.length = _
    rw [hbase.groupConfig, List.length_mapIdx]
  | ok x =>
    obtain ⟨r', groupId⟩ := x
    have hf := claimedBy_founded cinfo hbase hpos (Std.not_lt.mp hle) hg u
    obtain ⟨resp, hresp, hrun⟩ :=
      unfailingCreateRoom_run m comId cinfo hf.wf.toSeated hf.roomId (m.cnt comId)
    rw [cnt] at hg hrun
    simp only [hg, ofExcept_ok, modify_run]
    rw [hrun]
    exact .created _ resp hf hresp

theorem createRoom_plain {sig : ClientSharedSignalingInfo} {now : UInt64}
    (h : Creatable req sig now) (hgroups : req.groupConfig = [])
    (hmask : req.passwordSlotMask = 0) (m : RoomManager) (comId : ComId) (cinfo : ClientInfo)
    (serverId : UInt16) : ∃ resp, (createRoom comId req cinfo serverId sig now m).1 = .ok resp := by
  have hs := createRoom_step m comId req cinfo serverId sig now
  rcases hrun : createRoom comId req cinfo serverId sig now m with ⟨o, m'⟩
  rw [hrun] at hs
  cases hs with
  | refused e hno => exact absurd h hno
  | late e r hlen hr hg =>
    rw [hgroups, List.length_nil, List.length_eq_zero_iff] at hlen
    rw [hmask] at hr
    rw [enterFirstGroup, hlen] at hg
    simp only [hr, ne_eq, not_true_eq_false, false_and, if_false] at hg
    cases hg
  | created room resp hf hresp => exact ⟨resp, rfl⟩

/-! ## 3. Joining -/

/-- The manager after a user joined `room` under `key`, which is now `r'`. -/
def joined (m : RoomManager) (key : ComId × UInt64) (room r' : Room) (userId : UserId) :
    RoomManager :=
  { m.putRoom key r' with userRooms := m.userRooms.addTo userId (key.1, room.roomId) }

/-- **Everything a join request can do to the manager.** Once the user is in, the call no longer
    fails; it may still panic over its notifications. -/
inductive JoinStep (m : RoomManager) (comId : ComId) (req : JoinRoomRequest) (cinfo : ClientInfo)
    (sig : ClientSharedSignalingInfo) (now : UInt64) :
    Outcome ErrorType RoomPanic JoinResult → RoomManager → Prop where
  | absent (e : ErrorType) : JoinStep m comId req cinfo sig now (.err e) m
  | failed (room r' : Room) (e : ErrorType) (hr : m.rooms.get? (comId, req.roomId) = some room)
      (hnew : cinfo.userId ∉ room.getRoomUserIds)
      (ha : room.AdmitStep req cinfo sig now (.err e) r') :
      JoinStep m comId req cinfo sig now (.err e) (m.putRoom (comId, req.roomId) r')
  | stuck (room r' : Room) (p : RoomPanic) (hr : m.rooms.get? (comId, req.roomId) = some room)
      (hnew : cinfo.userId ∉ room.getRoomUserIds)
      (ha : room.AdmitStep req cinfo sig now (.panic p) r') :
      JoinStep m comId req cinfo sig now (.panic p) (m.putRoom (comId, req.roomId) r')
  | joined (room r' : Room) (memberId : UInt16) (previous : Finset UserId)
      (o : Outcome ErrorType RoomPanic JoinResult) (ho : ∀ e, o ≠ .err e)
      (hr : m.rooms.get? (comId, req.roomId) = some room)
      (hnew : cinfo.userId ∉ room.getRoomUserIds)
      (ha : room.AdmitStep req cinfo sig now (.ok (memberId, previous)) r') :
      JoinStep m comId req cinfo sig now o (m.joined (comId, req.roomId) room r' cinfo.userId)

theorem joinReply_run (req : JoinRoomRequest) (sig : ClientSharedSignalingInfo)
    (memberId : UInt16) (previous : Finset UserId) (m : RoomManager) :
    ∃ o, joinReply comId req sig memberId previous m = (o, m) ∧ ∀ e, o ≠ .err e := by
  unfold joinReply
  rw [Call.bind_ok (Call.read_run m)]
  cases m.rooms.get? (comId, req.roomId) with
  | none => exact ⟨_, rfl, fun e h => by cases h⟩
  | some room =>
    rw [Call.bind_ok (Call.unwrap_some room _ m)]
    cases room.joinNotifications req.roomId memberId req.optData sig previous with
    | error p => exact ⟨_, rfl, fun e h => by cases h⟩
    | ok n =>
      cases hd : room.toRoomDataInternal with
      | none => exact ⟨.panic .groupIndex, by simp [Call.bind_run, Call.ofPanic, Call.pure],
          fun e h => by cases h⟩
      | some d => exact ⟨_, rfl, fun e h => by cases h⟩

theorem joinRoom_run {m : RoomManager} {comId : ComId} {req : JoinRoomRequest}
    (hr : m.rooms.get? (comId, req.roomId) = some room) (cinfo : ClientInfo)
    (sig : ClientSharedSignalingInfo) (now : UInt64) :
    joinRoom comId req cinfo sig now m =
      match letIn req cinfo sig now room with
      | (.ok x, r') =>
        joinReply comId req sig x.1 x.2 (m.joined (comId, req.roomId) room r' cinfo.userId)
      | (.err e, r') => (.err e, m.putRoom (comId, req.roomId) r')
      | (.panic p, r') => (.panic p, m.putRoom (comId, req.roomId) r') := by
  rw [joinRoom, read_bind_run, hr, bind_ok (unwrap_some room _ m)]
  rcases ha : letIn req cinfo sig now room with ⟨o, r'⟩
  have hon : onRoom (comId, req.roomId) room (letIn req cinfo sig now) m =
      (o, m.putRoom (comId, req.roomId) r') := by
    rw [onRoom, within_run, ha]
  cases o with
  | err e => exact bind_err hon
  | panic p => exact bind_panic hon
  | ok x => exact bind_ok hon

theorem reqJoinRoom_run (req : JoinRoomRequest) (cinfo : ClientInfo)
    (sig : ClientSharedSignalingInfo) (now : UInt64) :
    (∃ e, reqJoinRoom comId req cinfo sig now m = (.err e, m)) ∨
    ∃ room, m.rooms.get? (comId, req.roomId) = some room ∧
      cinfo.userId ∉ room.getRoomUserIds ∧
      reqJoinRoom comId req cinfo sig now m = joinRoom comId req cinfo sig now m := by
  rw [reqJoinRoom, read_bind_run]
  cases hr : m.rooms.get? (comId, req.roomId) with
  | none => exact Or.inl ⟨_, rfl⟩
  | some room =>
    by_cases hmem : cinfo.userId ∈ room.getRoomUserIds
    · simp only [if_pos hmem]
      exact Or.inl ⟨_, rfl⟩
    · simp only [if_neg hmem]
      exact Or.inr ⟨room, rfl, hmem, trivial⟩

theorem joinRoom_step {m : RoomManager} {comId : ComId} {req : JoinRoomRequest}
    {cinfo : ClientInfo} (hr : m.rooms.get? (comId, req.roomId) = some room)
    (hnew : cinfo.userId ∉ room.getRoomUserIds) (sig : ClientSharedSignalingInfo) (now : UInt64) :
    JoinStep m comId req cinfo sig now (joinRoom comId req cinfo sig now m).1
      (joinRoom comId req cinfo sig now m).2 := by
  have hs := room.letIn_step req cinfo sig now
  rw [joinRoom_run hr]
  rcases ha : letIn req cinfo sig now room with ⟨o, r'⟩
  rw [ha] at hs
  cases o with
  | err e => exact .failed room r' e hr hnew hs
  | panic p => exact .stuck room r' p hr hnew hs
  | ok x =>
    obtain ⟨memberId, previous⟩ := x
    obtain ⟨o, hrun, ho⟩ := joinReply_run comId req sig memberId previous
      (m.joined (comId, req.roomId) room r' cinfo.userId)
    simp only [hrun]
    exact .joined room r' memberId previous o ho hr hnew hs

theorem reqJoinRoom_step (req : JoinRoomRequest) (cinfo : ClientInfo)
    (sig : ClientSharedSignalingInfo) (now : UInt64) :
    JoinStep m comId req cinfo sig now (reqJoinRoom comId req cinfo sig now m).1
      (reqJoinRoom comId req cinfo sig now m).2 := by
  rcases reqJoinRoom_run m comId req cinfo sig now with ⟨e, hrun⟩ | ⟨room, hr, hnew, hrun⟩
  · rw [hrun]
    exact .absent e
  · rw [hrun]
    exact joinRoom_step hr hnew sig now

/-! ## 4. Leaving -/

/-- **What holds of the manager in every state**: the rooms are well-formed, carry their own id,
    and are filed; and a member's room is on the user's list. -/
structure Inv (m : RoomManager) : Prop where
  wf : ∀ {key : ComId × UInt64} {r : Room}, m.rooms.get? key = some r → r.Wf
  roomId : ∀ {c : ComId} {i : UInt64} {r : Room}, m.rooms.get? (c, i) = some r → r.roomId = i
  indexed : ∀ {c : ComId} {i : UInt64} {r : Room}, m.rooms.get? (c, i) = some r →
    i ∈ m.indexSet c r.indexKey
  member : ∀ {key : ComId × UInt64} {r : Room} {userId : UserId}, m.rooms.get? key = some r →
    userId ∈ r.getRoomUserIds → key ∈ m.userRooms.setAt userId

inductive LeaveStep (m : RoomManager) (comId : ComId) (roomId : UInt64) (userId : UserId) :
    Outcome ErrorType RoomPanic (Bool × Finset UserId) → RoomManager → Prop where
  | refused (e : ErrorType)
      (h : m.rooms.get? (comId, roomId) = none ∨ (comId, roomId) ∉ m.userRooms.setAt userId) :
      LeaveStep m comId roomId userId (.err e) m
  | stray (room : Room) (hr : m.rooms.get? (comId, roomId) = some room)
      (hin : (comId, roomId) ∈ m.userRooms.setAt userId) (hnot : userId ∉ room.getRoomUserIds) :
      LeaveStep m comId roomId userId (.panic .memberIdZero) (m.withdraw userId (comId, roomId))
  | left (room r' : Room) (mid : UInt16) (member : RoomUser)
      (hr : m.rooms.get? (comId, roomId) = some room) (hm : room.users[mid]? = some member)
      (hu : member.userId = userId) (hs : room.ReleaseStep mid member false r') :
      LeaveStep m comId roomId userId (.ok (false, room.getRoomUserIds.erase userId))
        ((m.putRoom (comId, roomId) r').withdraw userId (comId, roomId))
  | destroyed (room r' : Room) (mid : UInt16) (member : RoomUser)
      (hr : m.rooms.get? (comId, roomId) = some room) (hm : room.users[mid]? = some member)
      (hu : member.userId = userId) (hs : room.ReleaseStep mid member true r') :
      LeaveStep m comId roomId userId (.ok (true, room.getRoomUserIds.erase userId))
        ((m.removeRoom comId room.indexKey roomId).withdraw userId (comId, roomId))

theorem removeRoom_putRoom (r : Room) (userId : UserId) :
    ((m.withdraw userId (c, i)).putRoom (c, i) r).removeRoom c k i =
      (m.removeRoom c k i).withdraw userId (c, i) := by
  cases k <;> simp only [removeRoom, withdraw, putRoom, dropIndex, HashMap.remove_insert]

theorem destroyRoom_run {m : RoomManager} {c : ComId} {i : UInt64}
    (h : i ∈ m.indexSet c room.indexKey) :
    destroyRoom (c, i) room.worldId room.lobbyId [] m =
      (.ok (), m.removeRoom c room.indexKey i) := by
  have e : destroyRoom (c, i) room.worldId room.lobbyId [] m = (do
      if room.lobbyId = 0 then
        let _ ← unwrap (m.worldRooms.get? (c, room.worldId)) .worldRooms
        write { m with worldRooms := m.worldRooms.dropFrom (c, room.worldId) i }
      else
        let _ ← unwrap (m.lobbyRooms.get? (c, room.lobbyId)) .lobbyRooms
        write { m with lobbyRooms := m.lobbyRooms.dropFrom (c, room.lobbyId) i }
      modify fun m => { m with rooms := m.rooms.remove (c, i) } : ManagerCall Unit) m := rfl
  rw [e]
  unfold removeRoom
  unfold indexKey at h ⊢
  by_cases hl : room.lobbyId = 0
  · rw [if_pos hl] at h ⊢
    obtain ⟨s, hs, _⟩ := HashMap.exists_of_mem_setAt h
    simp only [if_pos hl, hs, bind_run, unwrap_some, write_run, modify_run]
    rfl
  · rw [if_neg hl] at h ⊢
    obtain ⟨s, hs, _⟩ := HashMap.exists_of_mem_setAt h
    simp only [if_neg hl, hs, bind_run, unwrap_some, write_run, modify_run]
    rfl

theorem leaveRoom_step_member {m : RoomManager} (h : Inv m) {comId : ComId}
    (hr : m.rooms.get? (comId, roomId) = some room) {mid : UInt16} {member : RoomUser}
    (hm : room.users[mid]? = some member) (random : Nat) :
    LeaveStep m comId roomId member.userId (leaveRoom comId roomId member.userId random m).1
      (leaveRoom comId roomId member.userId random m).2 := by
  have hwf := h.wf hr
  have hin : (comId, roomId) ∈ m.userRooms.setAt member.userId :=
    h.member hr (mem_getRoomUserIds.mpr ⟨mid, member, hm, rfl⟩)
  obtain ⟨gone, r', hrel, hstep⟩ := release_step hwf hm random
  have hids := userIdsOf_erase hwf.toSeated hm
  unfold leaveRoom
  rw [bind_ok (read_run m)]
  simp only [hr, if_pos hin]
  rw [bind_ok (write_run _ _)]
  have hon : onRoom (comId, roomId) room (release member.userId random)
      (m.withdraw member.userId (comId, roomId)) =
      (.ok (gone, userIdsOf (room.users.erase mid)),
        (m.withdraw member.userId (comId, roomId)).putRoom (comId, roomId) r') := by
    rw [onRoom, within_run, hrel]
  rw [bind_ok hon]
  cases gone with
  | false =>
    simp only [Bool.false_eq_true, if_false, pure_run]
    rw [hids]
    exact .left room r' mid member hr hm rfl hstep
  | true =>
    have hnil : userIdsOf (room.users.erase mid) = [] := by
      cases hstep with
      | last rest ho he =>
        rw [ExtTreeMap.isEmpty_iff] at he
        rw [he]
        rfl
    simp only [if_true]
    rw [hids, hnil, List.dedup_nil]
    have hidx : roomId ∈ ((m.withdraw member.userId (comId, roomId)).putRoom (comId, roomId)
        r').indexSet comId room.indexKey := by
      rw [indexSet_congr rfl rfl]
      exact h.indexed hr
    rw [bind_ok (destroyRoom_run hidx), removeRoom_putRoom]
    exact .destroyed room r' mid member hr hm rfl hstep

theorem leaveRoom_step {m : RoomManager} (h : Inv m) (comId : ComId) (roomId : UInt64)
    (userId : UserId) (random : Nat) :
    LeaveStep m comId roomId userId (leaveRoom comId roomId userId random m).1
      (leaveRoom comId roomId userId random m).2 := by
  cases hr : m.rooms.get? (comId, roomId) with
  | none =>
    have e : leaveRoom comId roomId userId random m = (.err .roomMissing, m) := by
      unfold leaveRoom
      rw [bind_ok (read_run m)]
      simp only [hr]
      rfl
    rw [e]
    exact .refused _ (Or.inl hr)
  | some room =>
    by_cases hmem : userId ∈ room.getRoomUserIds
    · obtain ⟨mid, member, hm, rfl⟩ := mem_getRoomUserIds.mp hmem
      exact leaveRoom_step_member h hr hm random
    unfold leaveRoom
    rw [bind_ok (read_run m)]
    simp only [hr]
    by_cases hin : (comId, roomId) ∈ m.userRooms.setAt userId
    · -- the list names a room the user is not in: `find_user` answers 0
      have hfind : room.findUser userId = 0 := by
        unfold findUser
        cases hf : room.memberOf userId with
        | none => rfl
        | some mid =>
          obtain ⟨u, hu, e⟩ := memberOf_some hf
          exact absurd (mem_getRoomUserIds.mpr ⟨mid, u, hu, e⟩) hmem
      have hrel : release userId random room = (.panic .memberIdZero, room) := by
        unfold release
        rw [bind_ok (read_run room), hfind]
        rfl
      have hon : onRoom (comId, roomId) room (release userId random)
          (m.withdraw userId (comId, roomId)) =
          (.panic .memberIdZero, m.withdraw userId (comId, roomId)) := by
        rw [onRoom, within_run, hrel, putRoom, withdraw, HashMap.insert_self hr]
      rw [if_pos hin, bind_ok (write_run _ _), bind_panic hon]
      exact .stray room hr hin hmem
    · rw [if_neg hin]
      exact .refused _ (Or.inr hin)

/-! ## 5. The setters -/

theorem setOn_step {c : RoomCall α} (hc : Keeps SameSeats c) (m : RoomManager)
    (comId : ComId) (roomId : UInt64) :
    (setOn comId roomId c m).2 = m ∨
    ∃ room r', m.rooms.get? (comId, roomId) = some room ∧ room.SameSeats r' ∧
      (setOn comId roomId c m).2 = m.putRoom (comId, roomId) r' := by
  unfold setOn
  rw [bind_ok (read_run m)]
  cases hr : m.rooms.get? (comId, roomId) with
  | none => exact Or.inl rfl
  | some room => exact Or.inr ⟨room, (c room).2, rfl, hc room, rfl⟩

end RoomManager

end Rpcn
