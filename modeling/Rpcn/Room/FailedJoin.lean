/-
  File:      Rpcn/Room/FailedJoin.lean
  Subject:   WHAT A FAILED JOIN LEAVES BEHIND.

  `join_room` takes the slot first and converts the member data of the request afterwards. So a
  join fails without a trace unless the request passes everything up to `get_a_slot` and then its
  member data is malformed: then the slot stays marked, the counter advanced and the group counted,
  for a member who never came.
-/
import Rpcn.Room.Reachable

namespace Rpcn

open Lib Np2Structs
open Std (ExtTreeMap)

/-! ## 1. The member data of a request -/

/-- **The member data of a join request is well formed**: a team id that fits a byte, and a single
    attribute has an id that fits two bytes and is not too long for its place. -/
structure MemberDataOk (req : JoinRoomRequest) : Prop where
  team : ∃ t, req.teamId = some t ∧ t.value ≤ 255
  attr : ∀ a, req.roomMemberBinAttrInternal = [a] → ∃ id, a.id = some id ∧ id.value ≤ 65535 ∧
    (id.value.toUInt16 = roomMemberBinAttrInternal1Id → a.data.length ≤ 128)

theorem getVerifiedOpt8_ok (v : Option Uint8) :
    (∃ n, Uint8.getVerifiedOpt v = .ok n) ↔ ∃ t, v = some t ∧ t.value ≤ 255 := by
  cases v with
  | none => simp [Uint8.getVerifiedOpt]
  | some t =>
    by_cases h : t.value > 255
    · simp [Uint8.getVerifiedOpt, Uint8.getVerified, h, Std.not_le.mpr h]
    · simp [Uint8.getVerifiedOpt, Uint8.getVerified, h, Std.not_lt.mp h]

theorem getVerifiedOpt16_ok {v : Option Uint16} {n : UInt16} :
    Uint16.getVerifiedOpt v = .ok n ↔
      ∃ t, v = some t ∧ t.value ≤ 65535 ∧ t.value.toUInt16 = n := by
  cases v with
  | none => simp [Uint16.getVerifiedOpt]
  | some t =>
    by_cases h : t.value > 65535
    · simp [Uint16.getVerifiedOpt, Uint16.getVerified, h, Std.not_le.mpr h]
    · simp [Uint16.getVerifiedOpt, Uint16.getVerified, h, Std.not_lt.mp h]

theorem memberBinAttr_ok {a : BinAttr} {id : UInt16} (hid : Uint16.getVerifiedOpt a.id = .ok id)
    (now : UInt64) :
    (∃ x, RoomMemberBinAttr.fromProtobuf a now = .ok x) ↔ a.data.length ≤ 128 := by
  unfold RoomMemberBinAttr.fromProtobuf RoomBinAttr.fromProtobuf
  rw [hid]
  by_cases h : a.data.length > 128
  · simp [bind, Except.bind, h, throw, throwThe, MonadExceptOf.throw]
  · simp [bind, Except.bind, h, Nat.le_of_not_lt h, pure, Except.pure]

theorem joinAttr_ok (attrs : List BinAttr) (now : UInt64) :
    (∃ x, RoomUser.joinAttr attrs now = .ok x) ↔ ∀ a, attrs = [a] →
      ∃ id, a.id = some id ∧ id.value ≤ 65535 ∧
        (id.value.toUInt16 = roomMemberBinAttrInternal1Id → a.data.length ≤ 128) := by
  match attrs with
  | [] => exact ⟨fun _ a h => (by cases h), fun _ => ⟨_, rfl⟩⟩
  | a :: b :: l => exact ⟨fun _ a h => (by cases h), fun _ => ⟨_, rfl⟩⟩
  | [a] =>
    have hone : ∀ P : BinAttr → Prop, (∀ a', [a] = [a'] → P a') ↔ P a := by
      intro P
      constructor
      · intro h
        exact h a rfl
      · rintro h a' e
        cases e
        exact h
    rw [hone]
    cases hid : Uint16.getVerifiedOpt a.id with
    | error e =>
      have hno : ∀ id, a.id = some id → ¬ id.value ≤ 65535 := by
        intro id hs hle
        have := getVerifiedOpt16_ok.mpr ⟨id, hs, hle, rfl⟩
        rw [hid] at this
        cases this
      constructor
      · rintro ⟨x, hx⟩
        simp only [RoomUser.joinAttr, hid] at hx
        cases hx
      · rintro ⟨id, hs, hle, _⟩
        exact absurd hle (hno id hs)
    | ok n =>
      obtain ⟨id, hs, hle, hn⟩ := getVerifiedOpt16_ok.mp hid
      have e : RoomUser.joinAttr [a] now = if n = roomMemberBinAttrInternal1Id then
          RoomMemberBinAttr.fromProtobuf a now else .ok (RoomMemberBinAttr.new now) := by
        simp only [RoomUser.joinAttr, hid]
        rfl
      rw [e]
      by_cases hmem : n = roomMemberBinAttrInternal1Id
      · rw [if_pos hmem, memberBinAttr_ok hid]
        constructor
        · intro hlen
          exact ⟨id, hs, hle, fun _ => hlen⟩
        · rintro ⟨id', hs', _, hlen⟩
          rw [hs] at hs'
          obtain rfl := Option.some.inj hs'
          exact hlen (hn.trans hmem)
      · rw [if_neg hmem]
        refine ⟨fun _ => ⟨id, hs, hle, fun h => absurd (hn.symm.trans h) hmem⟩, fun _ => ⟨_, rfl⟩⟩

theorem fromJoinRoomRequest_ok_iff (req : JoinRoomRequest) (sig : ClientSharedSignalingInfo)
    (now : UInt64) :
    (∃ u, RoomUser.fromJoinRoomRequest req sig now = .ok u) ↔ MemberDataOk req := by
  have hjoin := joinAttr_ok req.roomMemberBinAttrInternal now
  have hteam := getVerifiedOpt8_ok req.teamId
  constructor
  · rintro ⟨u, hu⟩
    unfold RoomUser.fromJoinRoomRequest at hu
    obtain ⟨a, ha, hu⟩ := except_bind_ok hu
    obtain ⟨t, ht, _⟩ := except_bind_ok hu
    exact ⟨hteam.mp ⟨t, ht⟩, hjoin.mp ⟨a, ha⟩⟩
  · intro h
    obtain ⟨a, ha⟩ := hjoin.mpr h.attr
    obtain ⟨t, ht⟩ := hteam.mpr h.team
    refine ⟨RoomUser.blank a t sig now, ?_⟩
    rw [RoomUser.fromJoinRoomRequest, ha, ht]
    rfl

/-! ## 2. The slot a room would grant -/

variable {r : Room} {joinLabel password : Option (Vector UInt8 8)}

namespace Room

/-- **There is a slot for the joiner.** -/
def HasSlot (r : Room) (joinLabel password : Option (Vector UInt8 8)) : Prop :=
  (r.groupConfig = [] ∧ (password = none ∨ password = r.roomPassword) ∧
    ∃ slot, r.MayTake password slot) ∨
  ∃ k g slot, r.Admits joinLabel password k g ∧ InGroup r.groupConfig k g slot ∧
    r.slots[slot - 1]? = some false

theorem SlotStep.hasSlot {r' : Room} {x : UInt8 × UInt16}
    (h : SlotStep r joinLabel password (.ok x) r') : r.HasSlot joinLabel password := by
  cases h with
  | group k g slot ha hin hfree => exact Or.inr ⟨k, g, slot, ha, hin, hfree⟩
  | single slot hg hp hs => exact Or.inl ⟨hg, hp, slot, hs⟩

theorem getASlot_of_hasSlot (hlen : r.slots.length = r.maxSlot.toNat)
    (h : r.HasSlot joinLabel password) : ∃ x, (getASlot joinLabel password r).1 = .ok x := by
  rcases h with ⟨hg, hp, slot, hs⟩ | ⟨k, g, slot, ha, hin, hfree⟩
  · rw [getASlot_single joinLabel password hg]
    rcases reqAnySlot_cases r password with ⟨slot', _, _, h⟩ | ⟨e, _, hno⟩ | ⟨_, hl⟩
    · rw [Call.bind_ok h]
      exact ⟨_, rfl⟩
    · rcases hno with ⟨h1, h2⟩ | hno
      · exact absurd hp (not_or.mpr ⟨h1, h2⟩)
      · exact absurd hs (hno slot)
    · omega
  · have hg : r.groupConfig ≠ [] := by
      intro e
      have := ha.group
      rw [e] at this
      cases this
    rw [getASlot_groups joinLabel password hg, chooseGroup_ok_iff.mpr ⟨k, g, ha, rfl⟩,
      Call.bind_ok (Call.ofExcept_ok _ r)]
    rcases takeGroupSlot_cases r k g with ⟨slot', _, _, h⟩ | ⟨p, _, _, hno⟩
    · rw [h]
      exact ⟨_, rfl⟩
    · exact absurd hfree (hno slot hin)

/-- **The room would grant the joiner a slot**: the checks before `get_a_slot` pass, and there is
    a slot to be had. -/
structure Grants (r : Room) (req : JoinRoomRequest) : Prop where
  knocks : r.Knocks req
  slot : r.HasSlot (eightBytes req.joinRoomGroupLabel) (eightBytes req.roomPassword)

theorem letIn_leaks (h : Wf r) {req : JoinRoomRequest} (hg : r.Grants req)
    (hdata : ¬ MemberDataOk req) (cinfo : ClientInfo) (sig : ClientSharedSignalingInfo)
    (now : UInt64) : ∃ e r', letIn req cinfo sig now r = (.err e, r') ∧ r'.slots ≠ r.slots := by
  obtain ⟨⟨groupId, memberId⟩, hx⟩ := getASlot_of_hasSlot h.slots.slots_length hg.slot
  have hs := getASlot_step r (eightBytes req.joinRoomGroupLabel) (eightBytes req.roomPassword)
  rcases hrun : getASlot (eightBytes req.joinRoomGroupLabel) (eightBytes req.roomPassword) r with
    ⟨o, r'⟩
  rw [hrun] at hs hx
  obtain rfl : o = .ok (groupId, memberId) := hx
  cases hu : RoomUser.fromJoinRoomRequest req sig now with
  | ok u => exact absurd ((fromJoinRoomRequest_ok_iff req sig now).mp ⟨u, hu⟩) hdata
  | error e =>
    refine ⟨e, r', ?_, fun heq => ?_⟩
    · rw [letIn_of_knocks hg.knocks, letInChecked, Call.bind_ok hrun]
      simp only [hu]
      rfl
    · have hgr := hs.granted h.slots
      have hfree := hgr.free
      rw [← heq, hgr.slots,
        List.getElem?_set_self (List.getElem?_eq_some_iff.mp hgr.free).1] at hfree
      cases hfree

end Room

/-! ## 3. The exact condition -/

/-- **When a failed join leaves no trace.** In every state of every run, for every stored room and
    every user not in it: a join that fails leaves the manager exactly as it was, if and only if
    the member data of the request is well formed or the room would not have granted a slot. -/
theorem failed_join_unchanged_iff {es : List (RoomOp × RoomOutcome)} {m : RoomManager}
    (h : roomSystem.Run es m) {comId : ComId} {req : JoinRoomRequest} {cinfo : ClientInfo}
    {room : Room} (hr : m.rooms.get? (comId, req.roomId) = some room)
    (hnew : cinfo.userId ∉ room.getRoomUserIds) (sig : ClientSharedSignalingInfo) (now : UInt64) :
    ((∃ e, (RoomManager.joinRoom comId req cinfo sig now m).1 = .err e) →
      (RoomManager.joinRoom comId req cinfo sig now m).2 = m) ↔
    MemberDataOk req ∨ ¬ room.Grants req := by
  have hwf := (inv_of_run h).wf hr
  constructor
  · intro hsame
    by_contra hnot
    obtain ⟨hdata, hgrants⟩ := not_or.mp hnot
    obtain ⟨e, r', hrun, hne⟩ :=
      Room.letIn_leaks hwf (not_not.mp hgrants) hdata cinfo sig now
    have hjoin : RoomManager.joinRoom comId req cinfo sig now m =
        (.err e, m.putRoom (comId, req.roomId) r') := by
      rw [RoomManager.joinRoom_run hr, hrun]
    rw [hjoin] at hsame
    have heq : m.putRoom (comId, req.roomId) r' = m := hsame ⟨e, rfl⟩
    have hself : (m.rooms.insert (comId, req.roomId) r').get? (comId, req.roomId) = some room :=
      (congrArg (fun m => m.rooms.get? (comId, req.roomId)) heq).trans hr
    rw [HashMap.get?_insert, if_pos rfl] at hself
    exact hne (congrArg Room.slots (Option.some.inj hself))
  · rintro hcond ⟨e, he⟩
    have hs := RoomManager.joinRoom_step hr hnew sig now
    rw [he] at hs
    generalize (RoomManager.joinRoom comId req cinfo sig now m).2 = m' at hs
    cases hs with
    | absent _ => rfl
    | failed room' r' _ hr' _ ha =>
      rw [hr] at hr'
      obtain rfl := Option.some.inj hr'
      cases ha with
      | refused _ =>
        show { m with rooms := m.rooms.insert (comId, req.roomId) room } = m
        rw [HashMap.insert_self hr]
      | late _ groupId memberId _ hs hu hk =>
        -- the late error needs both: bad member data and a slot that was granted
        rcases hcond with hdata | hno
        · obtain ⟨u, hu'⟩ := (fromJoinRoomRequest_ok_iff req sig now).mpr hdata
          rw [hu] at hu'
          cases hu'
        · exact absurd ⟨hk, hs.hasSlot⟩ hno
    | joined room' r' memberId previous o ho _ _ _ => exact absurd rfl (ho e)

def joinWithoutTeam : JoinRoomRequest where
  roomId := 1
  roomPassword := []
  joinRoomGroupLabel := []
  roomMemberBinAttrInternal := []
  optData := none
  teamId := none

def withRoomForTwo : RoomManager := (openRoomForTwo.call RoomManager.new).2

theorem withRoomForTwo_run : ∃ es, roomSystem.Run es withRoomForTwo :=
  ⟨_, System.Run.step openRoomForTwo System.Run.start trivial⟩

theorem withRoomForTwo_stored : ∃ room,
    withRoomForTwo.rooms.get? (zeroComId, joinWithoutTeam.roomId) = some room ∧
      (player 2).userId ∉ room.getRoomUserIds := by
  have h : (withRoomForTwo.rooms.get? (zeroComId, 1)).any
      (fun r => (player 2).userId ∉ r.getRoomUserIds) = true := by decide
  obtain ⟨room, hr, hnot⟩ := (Option.any_eq_true _ _).mp h
  exact ⟨room, hr, of_decide_eq_true hnot⟩

theorem failed_join_unchanged_iff_withoutTeam :
    ∃ es room, roomSystem.Run es withRoomForTwo ∧
      withRoomForTwo.rooms.get? (zeroComId, joinWithoutTeam.roomId) = some room ∧
      (((∃ e, (RoomManager.joinRoom zeroComId joinWithoutTeam (player 2)
          ClientSharedSignalingInfo.new 0 withRoomForTwo).1 = .err e) →
        (RoomManager.joinRoom zeroComId joinWithoutTeam (player 2)
          ClientSharedSignalingInfo.new 0 withRoomForTwo).2 = withRoomForTwo) ↔
      MemberDataOk joinWithoutTeam ∨ ¬ room.Grants joinWithoutTeam) := by
  obtain ⟨es, hrun⟩ := withRoomForTwo_run
  obtain ⟨room, hr, hnew⟩ := withRoomForTwo_stored
  exact ⟨es, room, hrun, hr, failed_join_unchanged_iff hrun hr hnew _ 0⟩

/-- **A failed join leaks a slot**: the join without a team id is answered `Malformed` and leaves
    the last slot of the room marked. -/
theorem failed_join_leaks_slot :
    ∃ es room, roomSystem.Run es withRoomForTwo ∧
      withRoomForTwo.rooms.get? (zeroComId, joinWithoutTeam.roomId) = some room ∧
      (player 2).userId ∉ room.getRoomUserIds ∧
      (RoomManager.joinRoom zeroComId joinWithoutTeam (player 2)
        ClientSharedSignalingInfo.new 0 withRoomForTwo).1 = .err .malformed ∧
      (RoomManager.joinRoom zeroComId joinWithoutTeam (player 2)
        ClientSharedSignalingInfo.new 0 withRoomForTwo).2 ≠ withRoomForTwo := by
  obtain ⟨es, hrun⟩ := withRoomForTwo_run
  obtain ⟨room, hr, hnew⟩ := withRoomForTwo_stored
  refine ⟨es, room, hrun, hr, hnew, rfl, fun heq => ?_⟩
  have hslots : ((RoomManager.joinRoom zeroComId joinWithoutTeam (player 2)
      ClientSharedSignalingInfo.new 0 withRoomForTwo).2.rooms.get? (zeroComId, 1)).map (·.slots) ≠
      (withRoomForTwo.rooms.get? (zeroComId, 1)).map (·.slots) := by decide
  exact hslots (congrArg (fun m => (m.rooms.get? (zeroComId, 1)).map (·.slots)) heq)

end Rpcn
