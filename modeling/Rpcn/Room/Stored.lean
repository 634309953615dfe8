/-
  File:      Rpcn/Room/Stored.lean
  Subject:   THE LIFE OF A STORED ROOM: what one request makes of the room under a key.
-/
import Rpcn.Room.FailedUpdate

namespace Rpcn

open Lib Np2Structs Call HashMap
open Std (ExtTreeMap)

/-! ## 1. What a request creates -/

variable {req : CreateJoinRoomRequest} {r r' : Room}

namespace Room

structure PasswordKept (r : Room) : Prop where
  mask : r.groupConfig = [] → r.passwordSlotMask ≠ 0 → r.roomPassword ≠ none
  groups : ∀ g ∈ r.groupConfig, g.withPassword = true → r.roomPassword ≠ none

structure Configured (req : CreateJoinRoomRequest) (r : Room) : Prop where
  flagAttr : r.flagAttr = req.flagAttr &&& ~~~protectedRoomFlags
  signaling : SignalParam.ofRequest req.sigOptParam = .ok r.signalingParam
  password : r.PasswordKept

theorem enterFirstGroup_kept {groupId : UInt8} (h : r.enterFirstGroup req = .ok (r', groupId)) :
    r'.flagAttr = r.flagAttr ∧ r'.signalingParam = r.signalingParam ∧ r'.PasswordKept := by
  rcases enterFirstGroup_ok h with ⟨hg, hno, rfl, -⟩ | ⟨g, gs, label, hg, -, hno, -, rfl⟩
  · refine ⟨rfl, rfl, fun _ hm hp => hno ⟨hm, hp⟩, fun g hmem => ?_⟩
    rw [hg] at hmem
    exact absurd hmem List.not_mem_nil
  · refine ⟨rfl, rfl, (fun hnil => by cases hnil), fun x hx hw hp => ?_⟩
    -- the label and the count of the first group do not matter
    refine hno ⟨?_, hp⟩
    rw [List.any_eq_true]
    rcases List.mem_cons.mp hx with rfl | hx
    · exact ⟨g, List.mem_cons_self, hw⟩
    · exact ⟨x, List.mem_cons_of_mem _ hx, hw⟩

end Room

variable {memberId : UInt16}

namespace Room

theorem occupySlot_eq_ok {slot : Nat} (h : occupySlot slot r = (.ok memberId, r')) :
    r' = r.markSlot slot := by
  rw [occupySlot, read_bind_run] at h
  obtain ⟨taken, -, h⟩ := unwrap_bind_eq_ok h
  cases taken with
  | true => cases h
  | false =>
    cases h
    rfl

end Room

variable {m m' : RoomManager} {comId : ComId} {cinfo : ClientInfo} {serverId : UInt16}
  {sig : ClientSharedSignalingInfo} {now roomId : UInt64} {resp : CreateRoomResponse}
  {key : ComId × UInt64} {userId : UserId}

namespace RoomManager

theorem createRoom_filed (h : createRoom comId req cinfo serverId sig now m = (.ok resp, m')) :
    ∃ base u room memberId groupId, Room.fromProtobuf req now = .ok base ∧
      RoomUser.fromCreateJoinRoomRequest req sig now = .ok u ∧
      ((base.markSlot 1).claimedBy memberId (m.cnt comId + 1) serverId).enterFirstGroup req =
        .ok (room, groupId) ∧
      m'.rooms.get? (comId, m.cnt comId + 1) = some
        { room with users := room.users.insert memberId (creator u cinfo memberId groupId) } := by
  unfold createRoom at h
  split at h
  · cases h
  obtain ⟨base, hb, h⟩ := ofExcept_bind_eq_ok h
  obtain ⟨u, hu, h⟩ := ofExcept_bind_eq_ok h
  rw [read_bind_run] at h
  obtain ⟨_, m₁, -, h⟩ := bind_eq_ok h
  obtain ⟨⟨memberId, taken⟩, m₂, hocc, h⟩ := bind_eq_ok h
  obtain ⟨⟨room, groupId⟩, hg, h⟩ := ofExcept_bind_eq_ok h
  change (modify _ >>= fun _ => unfailingCreateRoom _ _ _ _) m₂ = _ at h
  rw [modify_bind_run, unfailingCreateRoom, modify_bind_run, modify_bind_run] at h
  obtain ⟨internal, -, hend⟩ := unwrap_bind_eq_ok h
  rw [Room.occupySlot_eq_ok (onLocal_eq_ok hocc)] at hg
  refine ⟨base, u, room, memberId, groupId, hb, hu, hg, ?_⟩
  cases hend
  exact (get?_insert _ _ _ _).trans (if_pos rfl)

theorem createRoom_configured (h : createRoom comId req cinfo serverId sig now m = (.ok resp, m')) :
    ∃ room, m'.rooms.get? (comId, m.cnt comId + 1) = some room ∧ room.Configured req := by
  obtain ⟨base, u, room, memberId, groupId, hb, -, hg, hget⟩ := createRoom_filed h
  obtain ⟨hflag, hsig, hpw⟩ := Room.enterFirstGroup_kept hg
  obtain ⟨-, hbflag, hbsig⟩ := Room.fromProtobuf_built hb
  have hkept : room.Configured req := ⟨hflag.trans hbflag, by rw [hsig]; exact hbsig, hpw⟩
  exact ⟨_, hget, hkept.flagAttr, hkept.signaling, hkept.password.mask, hkept.password.groups⟩

theorem createRoom_rooms (m : RoomManager) (comId : ComId) (req : CreateJoinRoomRequest)
    (cinfo : ClientInfo) (serverId : UInt16) (sig : ClientSharedSignalingInfo) (now : UInt64) :
    ((∃ e, (createRoom comId req cinfo serverId sig now m).1 = .err e) ∧
      (createRoom comId req cinfo serverId sig now m).2.rooms = m.rooms) ∨
    ∃ resp base u room memberId groupId,
      (createRoom comId req cinfo serverId sig now m).1 = .ok resp ∧
      resp.internal.roomId = m.cnt comId + 1 ∧ Room.fromProtobuf req now = .ok base ∧
      RoomUser.fromCreateJoinRoomRequest req sig now = .ok u ∧
      ((base.markSlot 1).claimedBy memberId (m.cnt comId + 1) serverId).enterFirstGroup req =
        .ok (room, groupId) ∧
      (createRoom comId req cinfo serverId sig now m).2.rooms =
        m.rooms.insert (comId, m.cnt comId + 1)
          { room with users := room.users.insert memberId (creator u cinfo memberId groupId) } := by
  have hs := createRoom_step m comId req cinfo serverId sig now
  rcases hrun : createRoom comId req cinfo serverId sig now m with ⟨o, m'⟩
  rw [hrun] at hs
  cases hs with
  | refused e _ => exact Or.inl ⟨⟨e, rfl⟩, rfl⟩
  | late e _ _ _ _ => exact Or.inl ⟨⟨e, rfl⟩, rfl⟩
  | created filed resp hf hresp =>
    obtain ⟨base, u, room, memberId, groupId, hb, hu, hg, hget⟩ := createRoom_filed hrun
    have hget : (m.rooms.insert (comId, filed.roomId) filed).get? (comId, m.cnt comId + 1) =
      some _ := hget
    rw [get?_insert, hf.roomId, if_pos rfl] at hget
    refine Or.inr ⟨resp, base, u, room, memberId, groupId, rfl, hresp, hb, hu, hg, ?_⟩
    show m.rooms.insert (comId, filed.roomId) filed = _
    rw [hf.roomId, Option.some.inj hget]

/-! ## 2. What a join makes of its room -/

theorem reqJoinRoom_rooms (m : RoomManager) (comId : ComId) (req : JoinRoomRequest)
    (cinfo : ClientInfo) (sig : ClientSharedSignalingInfo) (now : UInt64) :
    (reqJoinRoom comId req cinfo sig now m).2.rooms = m.rooms ∨
    ∃ room, m.rooms.get? (comId, req.roomId) = some room ∧
      cinfo.userId ∉ room.getRoomUserIds ∧
      (reqJoinRoom comId req cinfo sig now m).2.rooms =
        m.rooms.insert (comId, req.roomId) (Room.letIn req cinfo sig now room).2 := by
  rcases reqJoinRoom_run m comId req cinfo sig now with ⟨e, hrun⟩ | ⟨room, hr, hnew, hrun⟩
  · rw [hrun]
    exact Or.inl rfl
  · refine Or.inr ⟨room, hr, hnew, ?_⟩
    rw [hrun, joinRoom_run hr]
    rcases Room.letIn req cinfo sig now room with ⟨o, r'⟩
    cases o with
    | err e => rfl
    | panic p => rfl
    | ok x =>
      obtain ⟨o', hreply, -⟩ := joinReply_run comId req sig x.1 x.2
        (m.joined (comId, req.roomId) room r' cinfo.userId)
      simp only [hreply]
      rfl

/-! ## 3. One request -/

/-- **How a room comes to be stored under a key by a request**: it was there and is left as it was,
    or the request made it, with `r'` what is stored. -/
inductive RoomStep (m : RoomManager) : RoomOp → ComId × UInt64 → Room → Prop where
  | same (op : RoomOp) (key : ComId × UInt64) (room : Room) (hr : m.rooms.get? key = some room) :
      RoomStep m op key room
  | founded (comId : ComId) (req : CreateJoinRoomRequest) (cinfo : ClientInfo) (serverId : UInt16)
      (sig : ClientSharedSignalingInfo) (now : UInt64) (room : Room)
      (hf : room.Founded req cinfo (m.cnt comId + 1)) (hc : room.Configured req) :
      RoomStep m (.createRoom comId req cinfo serverId sig now) (comId, m.cnt comId + 1) room
  | admitted (comId : ComId) (req : JoinRoomRequest) (cinfo : ClientInfo)
      (sig : ClientSharedSignalingInfo) (now : UInt64) (room : Room)
      (hr : m.rooms.get? (comId, req.roomId) = some room)
      (hnew : cinfo.userId ∉ room.getRoomUserIds) :
      RoomStep m (.joinRoom comId req cinfo sig now) (comId, req.roomId)
        (Room.letIn req cinfo sig now room).2
  | released (comId : ComId) (roomId : UInt64) (userId : UserId) (random : Nat) (room r' : Room)
      (mid : UInt16) (member : RoomUser) (hr : m.rooms.get? (comId, roomId) = some room)
      (hm : room.users[mid]? = some member) (hu : member.userId = userId)
      (hs : room.ReleaseStep mid member false r') :
      RoomStep m (.leaveRoom comId roomId userId random) (comId, roomId) r'
  | external (comId : ComId) (req : SetRoomDataExternalRequest) (userId : UserId) (room : Room)
      (hr : m.rooms.get? (comId, req.roomId) = some room) :
      RoomStep m (.setRoomdataExternal comId req userId) (comId, req.roomId)
        (Room.setExternal req userId room).2
  | internal (comId : ComId) (req : SetRoomDataInternalRequest) (userId : UserId) (now : UInt64)
      (room : Room) (hr : m.rooms.get? (comId, req.roomId) = some room) :
      RoomStep m (.setRoomdataInternal comId req userId now) (comId, req.roomId)
        (Room.setInternal req userId now room).2
  | member (comId : ComId) (req : SetRoomMemberDataInternalRequest) (userId : UserId)
      (now : UInt64) (room : Room) (hr : m.rooms.get? (comId, req.roomId) = some room) :
      RoomStep m (.setRoommemberdataInternal comId req userId now) (comId, req.roomId)
        (Room.setMember req userId now room).2

theorem createRoom_roomStep
    (h : (createRoom comId req cinfo serverId sig now m).2.rooms.get? key = some r') :
    RoomStep m (.createRoom comId req cinfo serverId sig now) key r' := by
  have hs := createRoom_step m comId req cinfo serverId sig now
  rcases hrun : createRoom comId req cinfo serverId sig now m with ⟨o, m'⟩
  rw [hrun] at hs h
  cases hs with
  | refused e _ => exact .same _ key r' h
  | late e _ _ _ _ => exact .same _ key r' h
  | created room resp hf hresp =>
    obtain ⟨room', hroom', hc⟩ := createRoom_configured hrun
    have hroom' : (m.rooms.insert (comId, room.roomId) room).get? (comId, m.cnt comId + 1) =
      some room' := hroom'
    have h : (m.rooms.insert (comId, room.roomId) room).get? key = some r' := h
    rw [get?_insert, hf.roomId, if_pos rfl] at hroom'
    cases hroom'
    rw [get?_insert] at h
    split at h
    · rename_i hkey
      cases h
      rw [hkey, hf.roomId]
      exact .founded comId req cinfo serverId sig now _ hf hc
    · exact .same _ key r' h

theorem leaveRoom_roomStep (hI : Inv m) {random : Nat}
    (h : (leaveRoom comId roomId userId random m).2.rooms.get? key = some r') :
    RoomStep m (.leaveRoom comId roomId userId random) key r' := by
  have hs := leaveRoom_step hI comId roomId userId random
  generalize leaveRoom comId roomId userId random m = x at hs h
  obtain ⟨o, m'⟩ := x
  cases hs with
  | refused e _ => exact .same _ key r' h
  | stray room hr hin hnot => exact .same _ key r' h
  | left room r'' mid member hr hm hu hs =>
    have h : (m.rooms.insert (comId, roomId) r'').get? key = some r' := h
    rw [get?_insert] at h
    split at h
    · rename_i hkey
      cases h
      rw [hkey]
      exact .released comId roomId userId random room _ mid member hr hm hu hs
    · exact .same _ key r' h
  | destroyed room r'' mid member hr hm hu hs =>
    have h : (m.rooms.remove (comId, roomId)).get? key = some r' := h
    rw [get?_remove] at h
    split at h
    · cases h
    · exact .same _ key r' h

theorem setOn_stored {α : Type} {c : RoomCall α}
    (h : (setOn comId roomId c m).2.rooms.get? key = some r') :
    m.rooms.get? key = some r' ∨ ∃ room, m.rooms.get? (comId, roomId) = some room ∧
      key = (comId, roomId) ∧ r' = (c room).2 := by
  rw [setOn, read_bind_run] at h
  cases hr : m.rooms.get? (comId, roomId) with
  | none =>
    rw [hr] at h
    exact Or.inl h
  | some room =>
    rw [hr] at h
    have h : (m.rooms.insert (comId, roomId) (c room).2).get? key = some r' := h
    rw [get?_insert] at h
    split at h
    · rename_i hkey
      cases h
      exact Or.inr ⟨room, rfl, hkey, rfl⟩
    · exact Or.inl h

theorem call_roomStep (hI : Inv m) (op : RoomOp) (h : (op.call m).2.rooms.get? key = some r') :
    RoomStep m op key r' := by
  cases op with
  | createRoom comId req cinfo serverId sig now =>
    rw [RoomOp.call, mapOk_state] at h
    exact createRoom_roomStep h
  | joinRoom comId req cinfo sig now =>
    rw [RoomOp.call, mapOk_state] at h
    rcases reqJoinRoom_rooms m comId req cinfo sig now with e | ⟨room, hr, hnew, e⟩
    · rw [e] at h
      exact .same _ key r' h
    · rw [e, get?_insert] at h
      split at h
      · rename_i hkey
        cases h
        rw [hkey]
        exact .admitted comId req cinfo sig now room hr hnew
      · exact .same _ key r' h
  | leaveRoom comId roomId userId random =>
    rw [RoomOp.call, mapOk_state] at h
    exact leaveRoom_roomStep hI h
  | setRoomdataExternal comId req userId =>
    rw [RoomOp.call, mapOk_state] at h
    rcases setOn_stored h with h | ⟨room, hr, rfl, rfl⟩
    · exact .same _ key r' h
    · exact .external comId req userId room hr
  | setRoomdataInternal comId req userId now =>
    rw [RoomOp.call, mapOk_state] at h
    rcases setOn_stored h with h | ⟨room, hr, rfl, rfl⟩
    · exact .same _ key r' h
    · exact .internal comId req userId now room hr
  | setRoommemberdataInternal comId req userId now =>
    rw [RoomOp.call, mapOk_state] at h
    rcases setOn_stored h with h | ⟨room, hr, rfl, rfl⟩
    · exact .same _ key r' h
    · exact .member comId req userId now room hr

end RoomManager

/-! ## 4. Whole runs -/

def RoomManager.AllRooms (P : Room → Prop) (m : RoomManager) : Prop :=
  ∀ key r, m.rooms.get? key = some r → P r

theorem stored_invariant {G : RoomManager → RoomOp → Prop} {P : Room → Prop}
    (hstep : ∀ m op key r', RoomManager.Inv m → m.AllRooms P → G m op →
      RoomManager.RoomStep m op key r' → P r') {es : List (RoomOp × RoomOutcome)}
    (h : (roomSystem.restrict G).Run es m) : m.AllRooms P := by
  suffices hinv : RoomManager.Inv m ∧ m.AllRooms P from hinv.2
  refine h.invariant (I := fun m => RoomManager.Inv m ∧ m.AllRooms P)
    ⟨RoomManager.inv_new, fun key r hr => by cases hr⟩ fun m op hP hG => ?_
  exact ⟨hP.1.change (RoomManager.call_change hP.1 op),
    fun key r hr => hstep m op key r hP.1 hP.2 hG.2 (RoomManager.call_roomStep hP.1 op hr)⟩

/-! ## 5. Slots and members -/

variable {mid : UInt16}

namespace Room

theorem SlotDiscipline.size_le (h : SlotDiscipline r) : r.users.size ≤ r.maxSlot.toNat := by
  have hmem : ∀ mid ∈ r.users.keys, ∃ u, r.users[mid]? = some u := fun mid hk =>
    Option.isSome_iff_exists.mp (ExtTreeMap.mem_iff_isSome_getElem?.mp (ExtTreeMap.mem_keys.mp hk))
  have hnd : (r.users.keys.map slotOf).Nodup := by
    refine List.Nodup.map_on (fun a ha b hb e => ?_) ExtTreeMap.nodup_keys
    obtain ⟨u, hu⟩ := hmem a ha
    obtain ⟨v, hv⟩ := hmem b hb
    exact h.slot_inj hu hv e
  have hsub : (r.users.keys.map slotOf).toFinset ⊆ Finset.Icc 1 r.maxSlot.toNat := by
    intro k hk
    rw [List.mem_toFinset, List.mem_map] at hk
    obtain ⟨mid, hmid, rfl⟩ := hk
    obtain ⟨u, hu⟩ := hmem mid hmid
    exact Finset.mem_Icc.mpr ⟨h.slot_pos hu, h.slot_le hu⟩
  calc r.users.size = (r.users.keys.map slotOf).toFinset.card := by
        rw [List.toFinset_card_of_nodup hnd, List.length_map, ExtTreeMap.length_keys]
    _ ≤ (Finset.Icc 1 r.maxSlot.toNat).card := Finset.card_le_card hsub
    _ = r.maxSlot.toNat := by rw [Nat.card_Icc, Nat.add_sub_cancel]

/-- The rooms differ at most in the slots, the counter and the groups, which need the same
    passwords. -/
def SlotsOnly (r r' : Room) : Prop :=
  ∃ slots memberIdCounter groupConfig, r' = { r with slots, memberIdCounter, groupConfig } ∧
    groupConfig.map (·.withPassword) = r.groupConfig.map (·.withPassword)

theorem SlotsOnly.refl (r : Room) : SlotsOnly r r := ⟨_, _, _, rfl, rfl⟩

theorem SlotsOnly.bumpGroup (r : Room) (k : Nat) : SlotsOnly r (r.bumpGroup k) := by
  refine ⟨_, _, _, rfl, map_modify ?_ _ k⟩
  exact fun _ => rfl

theorem SlotStep.slotsOnly {joinLabel password : Option (Vector UInt8 8)}
    {o : Outcome ErrorType RoomPanic (UInt8 × UInt16)} (h : SlotStep r joinLabel password o r') :
    SlotsOnly r r' := by
  cases h with
  | refused e => exact .refl _
  | short hg hs => exact .refl _
  | stuck k g p hp ha hno => exact .bumpGroup r k
  | group k g slot ha hin hfree =>
    obtain ⟨slots, counter, groups, e, hpw⟩ := SlotsOnly.bumpGroup r k
    rw [e]
    exact ⟨_, _, groups, rfl, hpw⟩
  | single slot hg hp hs => exact ⟨_, _, _, rfl, rfl⟩

theorem letIn_cases (h : r.Wf) (req : JoinRoomRequest) (cinfo : ClientInfo)
    (sig : ClientSharedSignalingInfo) (now : UInt64) :
    SlotsOnly r (letIn req cinfo sig now r).2 ∨
    ∃ r₁ memberId u, SlotsOnly r r₁ ∧ r.users[memberId]? = none ∧ u.userId = cinfo.userId ∧
      u.signalingInfo = sig ∧ (letIn req cinfo sig now r).2 = r₁.addUser memberId u := by
  have hs := r.letIn_step req cinfo sig now
  generalize letIn req cinfo sig now r = x at hs
  obtain ⟨o, r'⟩ := x
  cases hs with
  | refused e => exact Or.inl (.refl _)
  | stuck p _ hs => exact Or.inl hs.slotsOnly
  | late e groupId memberId _ hs hu hk => exact Or.inl hs.slotsOnly
  | admitted groupId memberId r₁ u hs hu =>
    obtain ⟨_, -, hu⟩ := except_bind_ok hu
    obtain ⟨_, -, hu⟩ := except_bind_ok hu
    cases hu
    refine Or.inr ⟨r₁, memberId, _, hs.slotsOnly, ?_, rfl, rfl, rfl⟩
    cases hnone : r.users[memberId]? with
    | none => rfl
    | some v => exact absurd rfl ((hs.granted h.slots).fresh h.slots hnone)

theorem ReleaseStep.counted {member : RoomUser} (hs : ReleaseStep r mid member false r') :
    r'.users.size = (r.users.erase mid).size ∧
      r'.flagAttr = (r.dropMember mid member).flagAttr ∧ r'.maxSlot = r.maxSlot := by
  cases hs with
  | stays ho => exact ⟨rfl, rfl, rfl⟩
  | handed s rest ho hs hfirst => exact ⟨ExtTreeMap.size_modify, rfl, rfl⟩

/-! ## 6. The full flag -/

/-- `SCE_NP_MATCHING2_ROOM_FLAG_ATTR_FULL` is set. -/
def IsFull (r : Room) : Prop := r.flagAttr &&& roomFlagAttrFull ≠ 0

/-- In a room for more than one the flag says that every slot has its member. -/
def FullIff (r : Room) : Prop := r.maxSlot ≠ 1 → (r.IsFull ↔ r.users.size = r.maxSlot.toNat)

theorem FullIff.congr (h : r.FullIff) (hmax : r'.maxSlot = r.maxSlot)
    (hflag : r'.flagAttr &&& roomFlagAttrFull = r.flagAttr &&& roomFlagAttrFull)
    (hsize : r'.users.size = r.users.size) : r'.FullIff := by
  unfold FullIff IsFull at *
  rw [hmax, hflag, hsize]
  exact h

theorem FullIff.founded (hf : r.Founded req cinfo roomId) (hc : r.Configured req) : r.FullIff := by
  intro hne
  obtain ⟨u, groupId, hu, -⟩ := hf.creator
  have hnot : ¬ r.IsFull := by
    rw [IsFull, hc.flagAttr]
    exact not_not_intro (Bits.and_not_and_self _ _)
  refine ⟨fun hfull => absurd hfull hnot, fun hsize => absurd ?_ hne⟩
  rw [hu, ExtTreeMap.size_insert] at hsize
  exact UInt16.toNat_inj.mp hsize.symm

theorem FullIff.admitted {r₁ : Room} (h : r.FullIff) (hs : SlotsOnly r r₁) {u : RoomUser}
    (hnew : r.users[memberId]? = none) (hwf : (r₁.addUser memberId u).Wf) :
    (r₁.addUser memberId u).FullIff := by
  obtain ⟨slots, counter, groups, rfl, -⟩ := hs
  intro hne
  have hle := hwf.slots.size_le
  have hsize : (r.users.insert memberId u).size = r.users.size + 1 := by
    rw [ExtTreeMap.size_insert, if_neg]
    rw [ExtTreeMap.contains_iff_mem, ExtTreeMap.mem_iff_isSome_getElem?, hnew]
    exact Bool.false_ne_true
  have hle : (r.users.insert memberId u).size ≤ r.maxSlot.toNat := hle
  show (if (r.users.insert memberId u).size = r.maxSlot.toNat then r.flagAttr ||| roomFlagAttrFull
    else r.flagAttr) &&& roomFlagAttrFull ≠ 0 ↔ (r.users.insert memberId u).size = r.maxSlot.toNat
  by_cases hfull : (r.users.insert memberId u).size = r.maxSlot.toNat
  · rw [if_pos hfull, Bits.or_and_self]
    exact ⟨fun _ => hfull, fun _ => by decide⟩
  · rw [if_neg hfull]
    -- there was a slot left before, so the flag was not set
    have hbefore : ¬ r.IsFull := fun hb => by
      have := (h hne).mp hb
      omega
    exact ⟨fun hb => absurd hb hbefore, fun hb => absurd hb hfull⟩

theorem FullIff.released (hwf : r.Wf) {member : RoomUser} (hm : r.users[mid]? = some member)
    (hs : ReleaseStep r mid member false r') : r'.FullIff := by
  intro _
  obtain ⟨hsize, hflag, hmax⟩ := hs.counted
  have hmem : r.users.contains mid = true := by
    rw [ExtTreeMap.contains_iff_mem, ExtTreeMap.mem_iff_isSome_getElem?, hm]
    rfl
  have hle := hwf.slots.size_le
  have hpos := hwf.slots.maxSlot_pos
  have hlt : (r.users.erase mid).size ≠ r.maxSlot.toNat := by
    rw [ExtTreeMap.size_erase, if_pos hmem]
    omega
  rw [IsFull, hflag, hsize, hmax, dropMember, if_pos hlt, Bits.and_not_and_self]
  exact ⟨fun h => absurd rfl h, fun h => absurd h hlt⟩

theorem FullIff.member (h : r.FullIff) (hs : MemberDataOnly userId r r') : r'.FullIff := by
  obtain ⟨target, u, teamId, memberAttr, hu, -, rfl⟩ := hs
  refine h.congr rfl rfl ?_
  show (r.users.insert target _).size = _
  rw [ExtTreeMap.size_insert, if_pos]
  rw [ExtTreeMap.contains_iff_mem, ExtTreeMap.mem_iff_isSome_getElem?, hu]
  rfl

end Room

theorem RoomManager.RoomStep.fullIff (hI : Inv m) (h : m.AllRooms Room.FullIff) {op : RoomOp}
    (hs : RoomStep m op key r') : r'.FullIff := by
  cases hs with
  | same _ _ _ hr => exact h _ _ hr
  | founded comId req cinfo serverId sig now _ hf hc => exact .founded hf hc
  | admitted comId req cinfo sig now room hr hnew =>
    have hwf := hI.wf hr
    have hwf' := hwf.letIn hnew (room.letIn_step req cinfo sig now)
    rcases room.letIn_cases hwf req cinfo sig now with hs | ⟨r₁, mid, u, hs, hfresh, -, -, e⟩
    · obtain ⟨_, _, _, e, -⟩ := hs
      rw [e]
      exact (h _ _ hr).congr rfl rfl rfl
    · rw [e] at hwf' ⊢
      exact (h _ _ hr).admitted hs hfresh hwf'
  | released comId roomId userId random room _ mid member hr hm hu hs =>
    exact .released (hI.wf hr) hm hs
  | external comId req userId room hr =>
    obtain ⟨_, _, _, e⟩ := room.setExternal_externalOnly req userId
    rw [e]
    exact (h _ _ hr).congr rfl rfl rfl
  | internal comId req userId now room hr =>
    obtain ⟨_, _, _, _, _, e, hfull, -⟩ := room.setInternal_ownerOnly req userId now
    rw [e]
    exact (h _ _ hr).congr rfl hfull rfl
  | member comId req userId now room hr =>
    rcases room.setMember_memberDataOnly with e | ⟨-, hs⟩
    · rw [e]
      exact h _ _ hr
    · exact (h _ _ hr).member hs

/-- **The full flag.** In every state of every run, in a room for more than one, the flag is set
    exactly when there are as many members as slots. -/
theorem full_flag_iff {es : List (RoomOp × RoomOutcome)} {m : RoomManager}
    (h : roomSystem.Run es m) {key : ComId × UInt64} {r : Room} (hr : m.rooms.get? key = some r)
    (hne : r.maxSlot ≠ 1) :
    r.flagAttr &&& roomFlagAttrFull ≠ 0 ↔ r.users.size = r.maxSlot.toNat :=
  stored_invariant (fun _ _ _ _ hI hP _ hs => hs.fullIff hI hP) h.restrict_true key r hr hne

def joinRoomForTwo : RoomOp :=
  .joinRoom zeroComId { joinWithoutTeam with teamId := some ⟨0⟩ } (player 2)
    ClientSharedSignalingInfo.new 0

def withTwoPlayers : RoomManager := (joinRoomForTwo.call withRoomForTwo).2

theorem withTwoPlayers_run : ∃ es, roomSystem.Run es withTwoPlayers := by
  obtain ⟨es, hrun⟩ := withRoomForTwo_run
  exact ⟨_, hrun.step joinRoomForTwo trivial⟩

theorem full_flag_iff_twoPlayers :
    ∃ es r, roomSystem.Run es withTwoPlayers ∧
      withTwoPlayers.rooms.get? (zeroComId, 1) = some r ∧ r.users.size = 2 ∧
      r.flagAttr &&& roomFlagAttrFull ≠ 0 := by
  obtain ⟨es, hrun⟩ := withTwoPlayers_run
  have h : (withTwoPlayers.rooms.get? (zeroComId, 1)).map (fun r => (r.users.size, r.maxSlot)) =
      some (2, 2) := by decide +kernel
  obtain ⟨r, hr, hsize⟩ := Option.map_eq_some_iff.mp h
  have hsize := Prod.mk.inj hsize
  have hne : r.maxSlot ≠ 1 := by
    rw [hsize.2]
    decide
  have hfull : r.users.size = r.maxSlot.toNat := by
    rw [hsize.1, hsize.2]
    rfl
  exact ⟨es, r, hrun, hr, hsize.1, (full_flag_iff hrun hr hne).mpr hfull⟩

def openRoomForOne : RoomOp :=
  .createRoom zeroComId { roomForTwo with maxSlot := 1 } (player 1) 0
    ClientSharedSignalingInfo.new 0

/-- **A room for one is full from its creation and not flagged so.** -/
theorem room_for_one_not_flagged :
    ∃ es m r, roomSystem.Run es m ∧ m.rooms.get? (zeroComId, 1) = some r ∧
      r.users.size = r.maxSlot.toNat ∧ r.flagAttr &&& roomFlagAttrFull = 0 := by
  have h : ((openRoomForOne.call RoomManager.new).2.rooms.get? (zeroComId, 1)).map (fun r =>
      (r.users.size, r.maxSlot.toNat, r.flagAttr &&& roomFlagAttrFull)) = some (1, 1, 0) := by
    decide +kernel
  obtain ⟨r, hr, hview⟩ := Option.map_eq_some_iff.mp h
  simp only [Prod.mk.injEq] at hview
  exact ⟨_, _, r, System.Run.start.step openRoomForOne trivial, hr, hview.1.trans hview.2.1.symm,
    hview.2.2⟩

end Rpcn
