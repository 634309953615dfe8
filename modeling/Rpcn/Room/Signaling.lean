/-
  File:      Rpcn/Room/Signaling.lean
  Subject:   THE HUB OF A STAR.

  The hub of a star is the member id its creator named, or the owner. Nothing ties the id to a
  member: it may be nobody's, and its bearer may leave.
-/
import Rpcn.Room.Password

namespace Rpcn

open Lib Np2Structs
open Std (ExtTreeMap)

variable {r r' : Room} {p : SignalParam} {cinfo : ClientInfo} {mid : UInt16} {member : RoomUser}

namespace Room

/-! ## 1. The hub -/

def Star (r : Room) (p : SignalParam) : Prop :=
  r.signalingParam = some p ∧ p.sigType = .signalingStar ∧ p.shouldSignal = true

def HubPresent (r : Room) : Prop := ∀ p, r.Star p → ∃ u, r.hubOf p = some u

theorem hubOf_zero (h : p.hubMemberId = 0) : r.hubOf p = r.users[r.owner]? := by
  rw [hubOf, if_pos h]

theorem hubOf_ne_zero (h : p.hubMemberId ≠ 0) : r.hubOf p = r.users[p.hubMemberId]? := by
  rw [hubOf, if_neg h]

theorem HubPresent.congr (h : r.HubPresent) (hsig : r'.signalingParam = r.signalingParam)
    (howner : r'.owner = r.owner)
    (husers : ∀ (mid : UInt16) u, r.users[mid]? = some u → ∃ u', r'.users[mid]? = some u') :
    r'.HubPresent := by
  intro p hp
  obtain ⟨u, hu⟩ := h p ⟨hsig ▸ hp.1, hp.2⟩
  rw [hubOf, howner]
  exact husers _ u hu

theorem HubPresent.founded {req : CreateJoinRoomRequest} {roomId : UInt64}
    (hf : r.Founded req cinfo roomId) (hub : ∀ p, r.Star p →
      p.hubMemberId = 0 ∨ p.hubMemberId = 16) : r.HubPresent := by
  intro p hp
  obtain ⟨u, groupId, hu, -⟩ := hf.creator
  have hcreator : r.users[(16 : UInt16)]? = some (RoomManager.creator u cinfo 16 groupId) := by
    rw [hu]
    exact ExtTreeMap.getElem?_insert_self
  rcases hub p hp with h0 | h16
  · rw [hubOf_zero h0, hf.owner]
    exact ⟨_, hcreator⟩
  · rw [hubOf, h16]
    exact ⟨_, hcreator⟩

theorem ReleaseStep.member_left (hs : ReleaseStep r mid member false r') {m : UInt16}
    {u : RoomUser} (hne : m ≠ mid) (hm : r.users[m]? = some u) : ∃ u', r'.users[m]? = some u' := by
  have hdrop : (r.users.erase mid)[m]? = some u := by
    rw [TreeMap.getElem?_erase, if_neg hne]
    exact hm
  cases hs with
  | stays ho => exact ⟨u, hdrop⟩
  | handed s rest ho hs hfirst =>
    show ∃ u', ((r.users.erase mid).modify s _)[m]? = some u'
    rw [TreeMap.getElem?_modify, hdrop]
    split
    · exact ⟨_, rfl⟩
    · exact ⟨u, rfl⟩

theorem ReleaseStep.signalingParam {gone : Bool} (hs : ReleaseStep r mid member gone r') :
    r'.signalingParam = r.signalingParam := by
  cases hs <;> rfl

theorem HubPresent.released (h : r.HubPresent) (hwf' : r'.Wf)
    (hs : ReleaseStep r mid member false r')
    (hub : ∀ p, r.Star p → p.hubMemberId ≠ 0 → p.hubMemberId ≠ mid) : r'.HubPresent := by
  intro p hp
  have hp₀ : r.Star p := ⟨hs.signalingParam ▸ hp.1, hp.2⟩
  by_cases h0 : p.hubMemberId = 0
  · rw [hubOf_zero h0]
    exact hwf'.owner.owner_mem
  · obtain ⟨u, hu⟩ := h p hp₀
    rw [hubOf_ne_zero h0] at hu ⊢
    exact hs.member_left (hub p hp₀ h0) hu

end Room

/-- **The condition on a request** in the state it arrives in: a star is created with its creator or
    the owner as the hub, and a named hub does not leave a room in which others stay. -/
def HubGuard (m : RoomManager) : RoomOp → Prop
  | .createRoom _ req _ _ _ _ => ∀ p, SignalParam.ofRequest req.sigOptParam = .ok (some p) →
      p.sigType = .signalingStar → p.shouldSignal = true → p.hubMemberId = 0 ∨ p.hubMemberId = 16
  | .leaveRoom comId roomId userId _ => ∀ room, m.rooms.get? (comId, roomId) = some room →
      room.getRoomUserIds ≠ {userId} → ∀ p, room.Star p → p.hubMemberId ≠ 0 →
      room.memberOf userId ≠ some p.hubMemberId
  | _ => True

variable {m : RoomManager}

theorem RoomManager.RoomStep.hubPresent (hI : Inv m) (h : m.AllRooms Room.HubPresent)
    {op : RoomOp} (hg : HubGuard m op) {key : ComId × UInt64} (hs : RoomStep m op key r') :
    r'.HubPresent := by
  cases hs with
  | same _ _ _ hr => exact h _ _ hr
  | founded comId req cinfo serverId sig now _ hf hc =>
    refine .founded hf fun p hp => hg p ?_ hp.2.1 hp.2.2
    rw [hc.signaling, hp.1]
  | admitted comId req cinfo sig now room hr hnew =>
    rcases room.letIn_cases (hI.wf hr) req cinfo sig now with hs | ⟨r₁, mid, u, hs, -, -, -, e⟩
    · obtain ⟨_, _, _, e, -⟩ := hs
      rw [e]
      exact (h _ _ hr).congr rfl rfl fun _ u hu => ⟨u, hu⟩
    · obtain ⟨_, _, _, rfl, -⟩ := hs
      rw [e]
      refine (h _ _ hr).congr rfl rfl fun m v hv => ?_
      show ∃ u', (room.users.insert mid u)[m]? = some u'
      rw [TreeMap.getElem?_insert]
      split
      · exact ⟨u, rfl⟩
      · exact ⟨v, hv⟩
  | released comId roomId userId random room _ mid member hr hm hu hs =>
    subst hu
    have hwf := hI.wf hr
    refine (h _ _ hr).released (hwf.released hm hs) hs fun p hp h0 e => ?_
    refine hg room hr (fun hone => ?_) p hp h0 ?_
    · have hgone := (hs.gone_iff hwf).mpr ((hwf.toSeated.getRoomUserIds_eq_singleton hm).mp hone)
      cases hgone
    · rw [hwf.toSeated.memberOf_eq hm, e]
  | external comId req userId room hr =>
    obtain ⟨_, _, _, e⟩ := room.setExternal_externalOnly req userId
    rw [e]
    exact (h _ _ hr).congr rfl rfl fun _ u hu => ⟨u, hu⟩
  | internal comId req userId now room hr =>
    obtain ⟨_, _, _, _, _, e, -, -⟩ := room.setInternal_ownerOnly req userId now
    rw [e]
    exact (h _ _ hr).congr rfl rfl fun _ u hu => ⟨u, hu⟩
  | member comId req userId now room hr =>
    rcases room.setMember_memberDataOnly with e | ⟨-, target, u, teamId, memberAttr, -, -, e⟩
    · rw [e]
      exact h _ _ hr
    · rw [e]
      refine (h _ _ hr).congr rfl rfl fun m v hv => ?_
      show ∃ u', (room.users.insert target { u with teamId, memberAttr })[m]? = some u'
      rw [TreeMap.getElem?_insert]
      split
      · exact ⟨_, rfl⟩
      · exact ⟨v, hv⟩

/-! ## 2. A join and the hub -/

variable {req : JoinRoomRequest} {sig : ClientSharedSignalingInfo} {now : UInt64}

namespace Room

theorem letIn_panic {p : RoomPanic} (h : letIn req cinfo sig now r = (.panic p, r')) :
    p = .slotIndex ∨ p = .reqSpecificSlots := by
  have hs := r.letIn_step req cinfo sig now
  rw [h] at hs
  cases hs with
  | stuck _ _ hs =>
    cases hs with
    | short hg hs => exact Or.inl rfl
    | stuck k g _ hp ha hno => exact hp

theorem joinNotifications_hub (h : r.HubPresent) (roomId : UInt64) (memberId : UInt16)
    (optData : Option PresenceOptionData) (sig : ClientSharedSignalingInfo)
    (previous : Finset UserId) :
    r.joinNotifications roomId memberId optData sig previous ≠ .error .hubMissing := by
  unfold joinNotifications
  cases r.getRoomMemberUpdateInfo memberId .none optData with
  | none => exact fun e => by cases e
  | some info =>
    cases hsig : r.signalingParam with
    | none => exact fun e => by cases e
    | some p =>
      show (if p.shouldSignal = true then _ else _) ≠ _
      by_cases hshould : p.shouldSignal = true
      · rw [if_pos hshould]
        cases htype : p.sigType with
        | signalingNone => exact fun e => by cases e
        | signalingMesh => exact fun e => by cases e
        | signalingStar =>
          obtain ⟨u, hu⟩ := h p ⟨hsig, htype, hshould⟩
          simp only [hu]
          exact fun e => by cases e
      · rw [if_neg hshould]
        exact fun e => by cases e

end Room

namespace RoomManager

theorem joinReply_hub (h : m.AllRooms Room.HubPresent) (comId : ComId) (req : JoinRoomRequest)
    (sig : ClientSharedSignalingInfo) (memberId : UInt16) (previous : Finset UserId) :
    (joinReply comId req sig memberId previous m).1 ≠ .panic .hubMissing := by
  rw [joinReply, Call.read_bind_run]
  cases hr : m.rooms.get? (comId, req.roomId) with
  | none => exact fun e => by cases e
  | some room =>
    rw [Call.bind_ok (Call.unwrap_some room _ m)]
    have hhub := Room.joinNotifications_hub (h _ _ hr) req.roomId memberId req.optData sig previous
    refine Call.never_bind (Call.never_ofPanic hhub) (fun n => ?_) m
    refine Call.never_bind (Call.never_unwrap _ (by decide)) fun data => ?_
    exact Call.never_pure _

theorem reqJoinRoom_hub {comId : ComId}
    (h : (reqJoinRoom comId req cinfo sig now m).2.AllRooms Room.HubPresent) :
    (reqJoinRoom comId req cinfo sig now m).1 ≠ .panic .hubMissing := by
  rcases reqJoinRoom_run m comId req cinfo sig now with ⟨e, hrun⟩ | ⟨room, hr, -, hrun⟩
  · rw [hrun]
    exact fun e => by cases e
  · rw [hrun, joinRoom_run hr] at h ⊢
    rcases ha : Room.letIn req cinfo sig now room with ⟨o, r'⟩
    rw [ha] at h
    cases o with
    | err e => exact fun e => by cases e
    | panic p =>
      intro e
      cases e
      rcases Room.letIn_panic ha with hp | hp <;> cases hp
    | ok x =>
      -- the reply only reads, so the state it finds is the one that is left
      obtain ⟨o, hreply, -⟩ := joinReply_run comId req sig x.1 x.2
        (m.joined (comId, req.roomId) room r' cinfo.userId)
      simp only [hreply] at h
      exact joinReply_hub h comId req sig x.1 x.2

end RoomManager

/-- **The signaling hub exists**, in every state of every run in which the creators of stars name
    themselves or the owner and no named hub leaves others behind: the hub a join resolves is a
    member, and no join panics over it. -/
theorem signaling_hub_present {es : List (RoomOp × RoomOutcome)} {m : RoomManager}
    (h : (roomSystem.restrict HubGuard).Run es m) :
    (∀ key r p, m.rooms.get? key = some r → r.signalingParam = some p →
      p.sigType = .signalingStar → p.shouldSignal = true →
      ∃ u, r.users[if p.hubMemberId = 0 then r.owner else p.hubMemberId]? = some u) ∧
    (∀ comId req cinfo sig now,
      ((RoomOp.joinRoom comId req cinfo sig now).call m).1 ≠ .panic .hubMissing) := by
  have hall {es m} (h : (roomSystem.restrict HubGuard).Run es m) : m.AllRooms Room.HubPresent :=
    stored_invariant (fun _ _ _ _ hI hP hG hs => hs.hubPresent hI hP hG) h
  refine ⟨fun key r p hr hsig htype hshould => hall h key r hr p ⟨hsig, htype, hshould⟩, ?_⟩
  intro comId req cinfo sig now
  have hguard : HubGuard m (.joinRoom comId req cinfo sig now) := trivial
  have hnext := hall (h.step (.joinRoom comId req cinfo sig now) ⟨trivial, hguard⟩)
  have hnext : (Call.mapOk RoomReply.joined (RoomManager.reqJoinRoom comId req cinfo sig now)
    m).2.AllRooms Room.HubPresent := hnext
  rw [Call.mapOk_state] at hnext
  exact Call.mapOk_ne_panic (RoomManager.reqJoinRoom_hub hnext)

def openStar (hub : UInt32) : RoomOp :=
  .createRoom zeroComId { roomForTwo with
    maxSlot := 4, sigOptParam := some ⟨some ⟨2⟩, some ⟨0⟩, some ⟨hub⟩⟩ }
    (player 1) 0 ClientSharedSignalingInfo.new 0

def withStar (hub : UInt32) : RoomManager := ((openStar hub).call RoomManager.new).2

theorem openStar_owner_guard : HubGuard RoomManager.new (openStar 0) := by
  intro p hp _ _
  cases hp
  exact Or.inl rfl

theorem signaling_hub_present_owner :
    ∃ es, (roomSystem.restrict HubGuard).Run es (withStar 0) ∧
      ((withStar 0).rooms.get? (zeroComId, 1)).any (fun r => r.signalingParam.any (fun p =>
        p.sigType = .signalingStar ∧ p.shouldSignal)) = true ∧
      (joinRoomForTwo.call (withStar 0)).1 ≠ .panic .hubMissing := by
  have hrun := (System.Run.start (M := roomSystem.restrict HubGuard)).step (openStar 0)
    ⟨trivial, openStar_owner_guard⟩
  exact ⟨_, hrun, by decide +kernel, (signaling_hub_present hrun).2 _ _ _ _ _⟩

/-- **A star around nobody**: member id 99 is no member's, and whoever joins runs into the panic
    after being added. -/
theorem star_without_hub :
    ∃ es, roomSystem.Run es (withStar 99) ∧
      ((withStar 99).rooms.get? (zeroComId, 1)).map (fun r => r.signalingParam.map (fun p =>
        (p.sigType, p.shouldSignal, (r.hubOf p).isSome))) =
          some (some (.signalingStar, true, false)) ∧
      (joinRoomForTwo.call (withStar 99)).1 = .panic .hubMissing := by
  refine ⟨_, System.Run.start.step (openStar 99) trivial, by decide +kernel, ?_⟩
  rfl

end Rpcn
