/-
  File:      Rpcn/Room/Ownership.lean
  Subject:   OWNERSHIP AND SLOTS OVER WHOLE RUNS: what `Inv` says to somebody who looks at a room.
-/
import Rpcn.Room.Reachable

namespace Rpcn

open Lib Np2Structs Call
open Std (ExtTreeMap)

variable {m : RoomManager} {c : ComId} {i : UInt64} {room : Room}

namespace RoomManager

/-! ## 1. What a leave does -/

theorem leaveRoom_of_member (h : Inv m) (hr : m.rooms.get? (c, i) = some room) {mid : UInt16}
    {member : RoomUser} (hm : room.users[mid]? = some member) (random : Nat) :
    (∃ r', leaveRoom c i member.userId random m =
        (.ok (false, room.getRoomUserIds.erase member.userId),
          (m.putRoom (c, i) r').withdraw member.userId (c, i)) ∧
      room.ReleaseStep mid member false r') ∨
    (leaveRoom c i member.userId random m = (.ok (true, room.getRoomUserIds.erase member.userId),
        (m.removeRoom c room.indexKey i).withdraw member.userId (c, i)) ∧
      room.getRoomUserIds = {member.userId}) := by
  have hwf := h.wf hr
  have hs := leaveRoom_step_member h hr hm random
  generalize leaveRoom c i member.userId random m = x at hs
  obtain ⟨o, m'⟩ := x
  -- the room found and the member are those we know: a user is one member of a room only
  have huniq : ∀ {room' : Room} {mid' : UInt16} {member' : RoomUser},
      m.rooms.get? (c, i) = some room' → room'.users[mid']? = some member' →
      member'.userId = member.userId → room' = room ∧ mid' = mid ∧ member' = member := by
    intro room' mid' member' hr' hm' hu
    rw [hr] at hr'
    obtain rfl := Option.some.inj hr'
    obtain rfl := hwf.user_inj hm' hm hu
    rw [hm] at hm'
    exact ⟨rfl, rfl, (Option.some.inj hm').symm⟩
  have hmem : member.userId ∈ room.getRoomUserIds :=
    Room.mem_getRoomUserIds.mpr ⟨mid, member, hm, rfl⟩
  cases hs with
  | refused e hno =>
    rcases hno with hno | hno
    · rw [hr] at hno
      cases hno
    · exact absurd (h.member hr hmem) hno
  | stray room' hr' hin hnot =>
    rw [hr] at hr'
    rw [← Option.some.inj hr'] at hnot
    exact absurd hmem hnot
  | left room' r' mid' member' hr' hm' hu hs =>
    obtain ⟨rfl, rfl, rfl⟩ := huniq hr' hm' hu
    exact Or.inl ⟨r', rfl, hs⟩
  | destroyed room' r' mid' member' hr' hm' hu hs =>
    obtain ⟨rfl, rfl, rfl⟩ := huniq hr' hm' hu
    refine Or.inr ⟨rfl, ?_⟩
    exact (hwf.toSeated.getRoomUserIds_eq_singleton hm).mpr ((hs.gone_iff hwf).mp rfl)

theorem removed_iff (h : Inv m) (op : RoomOp) {key : ComId × UInt64}
    (hr : m.rooms.get? key = some room) :
    (op.call m).2.rooms.get? key = none ↔
      ∃ userId random, op = .leaveRoom key.1 key.2 userId random ∧
        room.getRoomUserIds = {userId} := by
  have keep : ∀ (key' : ComId × UInt64) (r' : Room), (m.rooms.insert key' r').get? key ≠ none := by
    intro key' r'
    rw [HashMap.get?_insert]
    split
    · exact Option.some_ne_none r'
    · rw [hr]
      exact Option.some_ne_none room
  constructor
  · intro hnone
    have hc := call_change h op
    generalize handed (op, (op.call m).1) = given at hc
    generalize (op.call m).2 = m' at hc hnone
    cases hc with
    | quiet _ _ hrooms _ _ _ _ =>
      rw [hrooms, hr] at hnone
      cases hnone
    | founded => exact absurd hnone (keep _ _)
    | touched => exact absurd hnone (keep _ _)
    | joined => exact absurd hnone (keep _ _)
    | left => exact absurd hnone (keep _ _)
    | destroyed c i userId random room' hr' hids =>
      have hnone : (m.rooms.remove (c, i)).get? key = none := hnone
      rw [HashMap.get?_remove] at hnone
      split at hnone
      · rename_i e
        subst e
        rw [hr] at hr'
        rw [Option.some.inj hr']
        exact ⟨userId, random, rfl, hids⟩
      · rw [hr] at hnone
        cases hnone
    | stray =>
      have hnone : m.rooms.get? key = none := hnone
      rw [hr] at hnone
      cases hnone
  · rintro ⟨userId, random, rfl, hids⟩
    have hmem : userId ∈ room.getRoomUserIds := by
      rw [hids]
      exact Finset.mem_singleton_self _
    obtain ⟨mid, member, hm, rfl⟩ := Room.mem_getRoomUserIds.mp hmem
    show (mapOk _ _ m).2.rooms.get? key = none
    rw [mapOk_state]
    have hwf := h.wf hr
    rcases leaveRoom_of_member h hr hm random with ⟨r', _, hs⟩ | ⟨hrun, _⟩
    · have hgone := (hs.gone_iff hwf).mpr ((hwf.toSeated.getRoomUserIds_eq_singleton hm).mp hids)
      cases hgone
    · rw [hrun]
      show (m.rooms.remove key).get? key = none
      rw [HashMap.get?_remove, if_pos rfl]

theorem leave_hands_on (h : Inv m) (hr : m.rooms.get? (c, i) = some room) {owner : RoomUser}
    (hm : room.users[room.owner]? = some owner) (hne : room.getRoomUserIds ≠ {owner.userId})
    (random : Nat) :
    ∃ room', (leaveRoom c i owner.userId random m).2.rooms.get? (c, i) = some room' ∧
      room'.owner ∈ room.users.erase room.owner ∧
      ∀ s, room.ownerSuccession.find? ((room.users.erase room.owner).contains ·) = some s →
        room'.owner = s := by
  rcases leaveRoom_of_member h hr hm random with ⟨r', hrun, hs⟩ | ⟨_, hids⟩
  · refine ⟨r', ?_, ?_⟩
    · rw [hrun]
      show (m.rooms.insert (c, i) r').get? (c, i) = some r'
      rw [HashMap.get?_insert, if_pos rfl]
    · cases hs with
      | stays ho => exact absurd rfl ho
      | handed s rest ho hs hfirst => exact ⟨hs, hfirst⟩
  · exact absurd hids hne

end RoomManager

/-! ## 2. Ownership -/

/-- **One owner.** In every state of every run each stored room has an owner among its members, who
    carries the owner flag alone. When the owner leaves others behind, the next owner is one of
    them, and the first id of the succession list still present if there is one; and a room
    disappears exactly with the leave of its last member. -/
theorem room_single_ownership {es : List (RoomOp × RoomOutcome)} {m : RoomManager}
    (h : roomSystem.Run es m) :
    (∀ key (room : Room), m.rooms.get? key = some room →
      ∃ owner : RoomUser, room.users[room.owner]? = some owner ∧
        owner.flagAttr &&& roomMemberFlagAttrOwner ≠ 0 ∧
        ∀ (mid : UInt16) (u : RoomUser), room.users[mid]? = some u → mid ≠ room.owner →
          u.flagAttr &&& roomMemberFlagAttrOwner = 0) ∧
    (∀ c i (room : Room) (owner : RoomUser) random, m.rooms.get? (c, i) = some room →
      room.users[room.owner]? = some owner → room.getRoomUserIds ≠ {owner.userId} →
      ∃ room', (RoomManager.leaveRoom c i owner.userId random m).2.rooms.get? (c, i) =
          some room' ∧
        room'.owner ∈ room.users.erase room.owner ∧
        ∀ s, room.ownerSuccession.find? ((room.users.erase room.owner).contains ·) = some s →
          room'.owner = s) ∧
    (∀ (op : RoomOp) key (room : Room), m.rooms.get? key = some room →
      ((op.call m).2.rooms.get? key = none ↔
        ∃ userId random, op = .leaveRoom key.1 key.2 userId random ∧
          room.getRoomUserIds = {userId})) := by
  have hinv := inv_of_run h
  refine ⟨?_, ?_, ?_⟩
  · intro key room hr
    have hwf := hinv.wf hr
    obtain ⟨owner, hm⟩ := hwf.owner.owner_mem
    refine ⟨owner, hm, ?_, ?_⟩
    · exact bne_iff_ne.mp ((hwf.owner.isOwner_iff hm).mpr rfl)
    · intro mid u hu hne
      by_contra hflag
      exact hne ((hwf.owner.isOwner_iff hu).mp (bne_iff_ne.mpr hflag))
  · intro c i room owner random hr hm hne
    exact RoomManager.leave_hands_on hinv hr hm hne random
  · intro op key room hr
    exact RoomManager.removed_iff hinv op hr

theorem room_single_ownership_opened :
    ∃ es m, roomSystem.Run es m ∧ ∃ room : Room, m.rooms.get? (zeroComId, 1) = some room ∧
      ∃ owner : RoomUser, room.users[room.owner]? = some owner ∧
        owner.flagAttr &&& roomMemberFlagAttrOwner ≠ 0 := by
  have hrun := System.Run.step openRoomForTwo (System.Run.start (M := roomSystem)) trivial
  refine ⟨_, _, hrun, ?_⟩
  obtain ⟨room, hr⟩ := Option.isSome_iff_exists.mp
    (show ((openRoomForTwo.call RoomManager.new).2.rooms.get? (zeroComId, 1)).isSome = true by
      decide)
  obtain ⟨owner, hm, hflag, _⟩ := (room_single_ownership hrun).1 _ room hr
  exact ⟨room, hr, owner, hm, hflag⟩

/-! ## 3. Slots -/

variable (req : SetRoomDataInternalRequest)

namespace Room

theorem letIn_never_occupySlot (req : JoinRoomRequest) (cinfo : ClientInfo)
    (sig : ClientSharedSignalingInfo) (now : UInt64) :
    Never .occupySlot (letIn req cinfo sig now) := by
  intro r h
  have hs := r.letIn_step req cinfo sig now
  rw [h] at hs
  generalize (letIn req cinfo sig now r).2 = r' at hs
  cases hs with
  | stuck _ _ hs =>
    cases hs with
    | stuck k g p hp ha hno => rcases hp with hp | hp <;> cases hp

theorem joinNotifications_ne_occupySlot (r : Room) (roomId : UInt64) (memberId : UInt16)
    (optData : Option PresenceOptionData) (sig : ClientSharedSignalingInfo)
    (previous : Finset UserId) :
    r.joinNotifications roomId memberId optData sig previous ≠ .error .occupySlot := by
  intro h
  unfold joinNotifications at h
  cases hi : r.getRoomMemberUpdateInfo memberId .none optData with
  | none =>
    rw [hi] at h
    cases h
  | some info =>
    rw [hi] at h
    simp only [Option.elim_some, pure_bind] at h
    split at h
    · cases h
    · split at h
      · split at h
        · cases h
        · generalize r.hubOf _ = hub at h
          cases hub <;> cases h
        · cases h
      · cases h

theorem setExternal_never_occupySlot (req : SetRoomDataExternalRequest) (userId : UserId) :
    Never .occupySlot (setExternal req userId) := by
  refine never_bind never_read fun room => ?_
  refine never_bind (never_ofExcept _) fun memberId => ?_
  refine never_ite (never_fail _) ?_
  refine never_bind (never_forM fun p => ?_) fun _ =>
    never_bind (never_forM fun p => ?_) fun _ => never_forM fun p => ?_
  all_goals exact never_bind (never_ofExcept _) fun _ => never_modify _

theorem setInternalAsOwner_never_occupySlot : Never .occupySlot (setInternalAsOwner req) := by
  refine never_bind ?_ fun _ => never_bind ?_ fun _ => never_bind ?_ fun _ =>
    never_bind ?_ fun _ => never_pure _
  · refine never_bind never_read fun _ => never_ite ?_ (never_pure _)
    exact never_bind (never_modify _) fun _ => never_pure _
  · refine never_foldlM (fun _ gc => ?_) _
    refine never_bind (never_ofExcept _) fun _ => never_bind never_read fun _ =>
      never_ite (never_pure _) (never_bind (never_unwrap _ (by decide)) fun _ =>
        never_ite ?_ (never_pure _))
    exact never_bind (never_modify _) fun _ => never_pure _
  · refine never_bind never_read fun _ => ?_
    split
    · refine never_ite ?_ (never_pure _)
      exact never_bind (never_modify _) fun _ => never_pure _
    · exact never_pure _
  · refine never_ite (never_pure _) ?_
    refine never_bind (never_ofExcept _) fun _ => never_bind never_read fun _ =>
      never_ite ?_ (never_pure _)
    exact never_bind (never_modify _) fun _ => never_pure _

theorem setInternal_never_occupySlot (userId : UserId) (now : UInt64) :
    Never .occupySlot (setInternal req userId now) := by
  refine never_bind never_read fun room => ?_
  refine never_bind (never_ofExcept _) fun memberId => ?_
  refine never_bind (never_ite (setInternalAsOwner_never_occupySlot req)
    (never_pure _)) fun _ => ?_
  refine never_bind (never_foldlM (fun _ p => ?_) _) fun _ => ?_
  · refine never_bind (never_ofExcept _) fun _ => never_ite (never_pure _) ?_
    exact never_bind (never_modify _) fun _ => never_pure _
  · refine never_ite (never_bind never_read fun _ => ?_) (never_pure _)
    exact never_bind (never_unwrap _ (by decide)) fun _ => never_pure _

theorem setMember_never_occupySlot (req : SetRoomMemberDataInternalRequest) (userId : UserId)
    (now : UInt64) : Never .occupySlot (setMember req userId now) := by
  refine never_bind never_read fun room => ?_
  refine never_bind (never_ofExcept _) fun memberId => ?_
  refine never_bind (never_ofExcept _) fun reqMemberId => ?_
  refine never_ite (never_fail _) ?_
  split
  · exact never_fail _
  · refine never_bind (never_ofExcept _) fun _ => ?_
    refine never_bind (never_modify _) fun _ => never_bind ?_ fun _ => ?_
    · unfold setMemberAttr
      split
      · refine never_bind (never_ofExcept _) fun _ => ?_
        refine never_ite ?_ (never_pure _)
        exact never_bind (never_modify _) fun _ => never_pure _
      · exact never_pure _
    · refine never_ite (never_bind never_read fun _ => ?_) (never_pure _)
      refine never_bind (never_unwrap _ (by decide)) fun _ => ?_
      exact never_bind (never_unwrap _ (by decide)) fun _ => never_pure _

end Room

namespace RoomManager

theorem joinRoom_never_occupySlot (comId : ComId) (req : JoinRoomRequest) (cinfo : ClientInfo)
    (sig : ClientSharedSignalingInfo) (now : UInt64) :
    Never .occupySlot (reqJoinRoom comId req cinfo sig now) := by
  refine never_bind never_read fun m => ?_
  split
  · exact never_fail _
  · refine never_ite (never_fail _) ?_
    refine never_bind never_read fun m => ?_
    refine never_bind (never_unwrap _ (by decide)) fun room => ?_
    refine never_bind (never_within (Room.letIn_never_occupySlot req cinfo sig now))
      fun _ => never_bind (never_modify _) fun _ => ?_
    refine never_bind never_read fun m => ?_
    refine never_bind (never_unwrap _ (by decide)) fun room => ?_
    refine never_bind (never_ofPanic
      (Room.joinNotifications_ne_occupySlot room _ _ _ _ _)) fun _ => ?_
    exact never_bind (never_unwrap _ (by decide)) fun _ => never_pure _

theorem setOn_never_occupySlot {α : Type} {c : RoomCall α} (hc : Never .occupySlot c)
    (comId : ComId) (roomId : UInt64) : Never .occupySlot (setOn comId roomId c) := by
  refine never_bind never_read fun m => ?_
  split
  · exact never_fail _
  · exact never_within hc

theorem call_never_occupySlot (h : Inv m) (op : RoomOp) : (op.call m).1 ≠ .panic .occupySlot := by
  cases op with
  | createRoom comId req cinfo serverId sig now =>
    refine mapOk_ne_panic fun hp => ?_
    have hs := createRoom_step m comId req cinfo serverId sig now
    rw [hp] at hs
    generalize (createRoom comId req cinfo serverId sig now m).2 = m' at hs
    cases hs
  | joinRoom comId req cinfo sig now =>
    exact mapOk_ne_panic (joinRoom_never_occupySlot comId req cinfo sig now m)
  | leaveRoom comId roomId userId random =>
    refine mapOk_ne_panic fun hp => ?_
    have hs := leaveRoom_step h comId roomId userId random
    rw [hp] at hs
    generalize (leaveRoom comId roomId userId random m).2 = m' at hs
    cases hs
  | setRoomdataExternal comId req userId =>
    exact mapOk_ne_panic
      (setOn_never_occupySlot (Room.setExternal_never_occupySlot req userId) _ _ m)
  | setRoomdataInternal comId req userId now =>
    exact mapOk_ne_panic
      (setOn_never_occupySlot (Room.setInternal_never_occupySlot req userId now) _ _ m)
  | setRoommemberdataInternal comId req userId now =>
    exact mapOk_ne_panic
      (setOn_never_occupySlot (Room.setMember_never_occupySlot req userId now) _ _ m)

end RoomManager

/-- **Member ids and slots.** In every state of every run the members of a stored room are keyed by
    their member id, sit in a slot of the room that is marked, and share it with nobody. Hence a
    leave by a member returns, and no request panics in `occupy_slot`. -/
theorem room_slot_discipline {es : List (RoomOp × RoomOutcome)} {m : RoomManager}
    (h : roomSystem.Run es m) :
    (∀ key (room : Room), m.rooms.get? key = some room →
      (∀ (mid : UInt16) (u : RoomUser), room.users[mid]? = some u →
        u.memberId = mid ∧ 1 ≤ (mid >>> 4).toNat ∧ (mid >>> 4).toNat ≤ room.maxSlot.toNat ∧
          room.slots[(mid >>> 4).toNat - 1]? = some true) ∧
      (∀ (mid mid' : UInt16) (u u' : RoomUser), room.users[mid]? = some u →
        room.users[mid']? = some u' → mid ≠ mid' → mid >>> 4 ≠ mid' >>> 4)) ∧
    (∀ c i (room : Room) userId random, m.rooms.get? (c, i) = some room →
      userId ∈ room.getRoomUserIds →
      ∃ r, (RoomManager.leaveRoom c i userId random m).1 = .ok r) ∧
    (∀ op : RoomOp, (op.call m).1 ≠ .panic .occupySlot) := by
  have hinv := inv_of_run h
  refine ⟨?_, ?_, RoomManager.call_never_occupySlot hinv⟩
  · intro key room hr
    have hslots := (hinv.wf hr).slots
    refine ⟨fun mid u hm => ?_, fun mid mid' u u' hm hm' hne e => ?_⟩
    · exact ⟨hslots.memberId_eq hm, hslots.slot_pos hm, hslots.slot_le hm, hslots.slot_taken hm⟩
    · exact hne (hslots.slot_inj hm hm' (congrArg UInt16.toNat e))
  · intro c i room userId random hr hmem
    obtain ⟨mid, member, hm, rfl⟩ := Room.mem_getRoomUserIds.mp hmem
    rcases RoomManager.leaveRoom_of_member hinv hr hm random with ⟨r', hrun, _⟩ | ⟨hrun, _⟩
    · rw [hrun]
      exact ⟨_, rfl⟩
    · rw [hrun]
      exact ⟨_, rfl⟩

theorem room_slot_discipline_opened :
    ∃ es m, roomSystem.Run es m ∧
      ∃ r, (RoomManager.leaveRoom zeroComId 1 1 0 m).1 = .ok r := by
  have hrun := System.Run.step openRoomForTwo (System.Run.start (M := roomSystem)) trivial
  refine ⟨_, _, hrun, ?_⟩
  obtain ⟨room, hr⟩ := Option.isSome_iff_exists.mp
    (show ((openRoomForTwo.call RoomManager.new).2.rooms.get? (zeroComId, 1)).isSome = true by
      decide)
  have hmem : ((openRoomForTwo.call RoomManager.new).2.rooms.get? (zeroComId, 1)).any
      (fun r => (1 : UserId) ∈ r.getRoomUserIds) = true := by decide
  rw [hr] at hmem
  exact (room_slot_discipline hrun).2.1 zeroComId 1 room 1 0 hr (of_decide_eq_true hmem)

end Rpcn
