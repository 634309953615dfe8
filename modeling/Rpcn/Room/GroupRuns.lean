/-
  File:      Rpcn/Room/GroupRuns.lean
  Subject:   GROUP ACCOUNTING OVER WHOLE RUNS.

  `GroupGuard` is the condition on a request, in the state it arrives in, under which the accounts
  of every room stay in order; `Accounted.call_iff` says that no weaker one would do.
-/
import Rpcn.Room.Groups

namespace Rpcn

open Lib Np2Structs Call
open Std (ExtTreeMap)

/-! ## 1. One request -/

/-- **The condition on a request** in the state it arrives in: a room with groups is created with
    groups that add up, and a joiner is sent only where one more fits. -/
def GroupGuard (m : RoomManager) : RoomOp → Prop
  | .createRoom _ req _ _ _ _ => req.groupConfig = [] ∨ Room.GroupsAddUp req
  | .joinRoom comId req _ _ _ => ∀ room, m.rooms.get? (comId, req.roomId) = some room →
      room.MayEnter (eightBytes req.joinRoomGroupLabel) (eightBytes req.roomPassword)
  | _ => True

def JoinsReturned (es : List (RoomOp × RoomOutcome)) : Prop :=
  ∀ comId req cinfo sig now o, (RoomOp.joinRoom comId req cinfo sig now, o) ∈ es → o.isOk = true

variable {r' : Room} {m m' : RoomManager} {comId : ComId} {cinfo : ClientInfo}
  {sig : ClientSharedSignalingInfo} {now : UInt64}

namespace RoomManager

def Accounted (m : RoomManager) : Prop :=
  ∀ (key : ComId × UInt64) (r : Room), m.rooms.get? key = some r → r.groupConfig ≠ [] →
    r.Accounted

theorem groups_ne_nil_of_length {r : Room} (h : r'.groupConfig.length = r.groupConfig.length)
    (hne : r'.groupConfig ≠ []) : r.groupConfig ≠ [] := by
  intro hnil
  rw [hnil, List.length_nil, List.length_eq_zero_iff] at h
  exact hne h

theorem Accounted.insert (h : m.Accounted) {key : ComId × UInt64}
    (hrooms : m'.rooms = m.rooms.insert key r') (hr : r'.groupConfig ≠ [] → r'.Accounted) :
    m'.Accounted := by
  intro key' r hget hne
  rw [hrooms, HashMap.get?_insert] at hget
  split at hget
  · cases hget
    exact hr hne
  · exact h _ _ hget hne

theorem Accounted.createRoom (h : m.Accounted) {req : CreateJoinRoomRequest}
    (hg : req.groupConfig = [] ∨ Room.GroupsAddUp req)
    {o : Outcome ErrorType RoomPanic CreateRoomResponse}
    (hs : CreateStep m comId req cinfo sig now o m') : m'.Accounted := by
  cases hs with
  | refused e _ => exact h
  | late e _ _ _ _ => exact h
  | created room resp hf _ =>
    refine h.insert rfl fun hne => (hf.accounted_iff hne).mpr (hg.resolve_left fun hnil => ?_)
    have e := hf.groups hne
    rw [hnil] at e
    exact hne (List.map_eq_nil_iff.mp e)

theorem Accounted.joinRoom (hI : Inv m) (h : m.Accounted) {req : JoinRoomRequest}
    (hg : ∀ room, m.rooms.get? (comId, req.roomId) = some room →
      room.MayEnter (eightBytes req.joinRoomGroupLabel) (eightBytes req.roomPassword))
    {o : Outcome ErrorType RoomPanic JoinResult} (hs : JoinStep m comId req cinfo sig now o m')
    (hok : o.isOk = true) : m'.Accounted := by
  cases hs with
  | absent e => exact h
  | failed => cases hok
  | stuck => cases hok
  | joined room r' memberId previous o _ hr hnew ha =>
    have hd := (hI.wf hr).slots
    have hput : (m.joined (comId, req.roomId) room r' cinfo.userId).rooms =
      m.rooms.insert (comId, req.roomId) r' := rfl
    refine h.insert hput fun hne => ?_
    have hne₀ : room.groupConfig ≠ [] := groups_ne_nil_of_length (ha.groups_length hd) hne
    exact (h _ _ hr hne₀).admitted hd hne₀ (hg room hr) ha

theorem Accounted.leaveRoom (hI : Inv m) (h : m.Accounted) {roomId : UInt64} {userId : UserId}
    {o : Outcome ErrorType RoomPanic (Bool × Finset UserId)}
    (hs : LeaveStep m comId roomId userId o m') : m'.Accounted := by
  cases hs with
  | refused e _ => exact h
  | stray room hr _ _ => exact h
  | left room r' mid member hr hm _ hs =>
    refine h.insert rfl fun hne => ?_
    have hne₀ : room.groupConfig ≠ [] := groups_ne_nil_of_length hs.groups_length hne
    exact (h _ _ hr hne₀).released (hI.wf hr).slots hm hs
  | destroyed room r' mid member hr _ _ _ =>
    intro key r hget hne
    have hget : (m.rooms.remove (comId, roomId)).get? key = some r := hget
    rw [HashMap.get?_remove] at hget
    split at hget
    · cases hget
    · exact h _ _ hget hne

theorem Accounted.setOn (h : m.Accounted) {α : Type} {c : RoomCall α}
    (hc : Keeps Room.SameSeats c) (comId : ComId) (roomId : UInt64) :
    (setOn comId roomId c m).2.Accounted := by
  rcases setOn_step hc m comId roomId with e | ⟨room, r', hr, hs, e⟩
  · rw [e]
    exact h
  · rw [e]
    refine h.insert rfl fun hne => ?_
    have hne₀ : room.groupConfig ≠ [] := groups_ne_nil_of_length hs.groups_length hne
    exact (h _ _ hr hne₀).sameSeats hs

theorem Accounted.call (hI : Inv m) (h : m.Accounted) (op : RoomOp) (hg : GroupGuard m op)
    (hok : ∀ comId req cinfo sig now, op = .joinRoom comId req cinfo sig now →
      (op.call m).1.isOk = true) : (op.call m).2.Accounted := by
  cases op with
  | createRoom comId req cinfo serverId sig now =>
    rw [RoomOp.call, mapOk_state]
    exact h.createRoom hg (createRoom_step m comId req cinfo serverId sig now)
  | joinRoom comId req cinfo sig now =>
    have hok := hok _ _ _ _ _ rfl
    rw [RoomOp.call, mapOk_isOk] at hok
    rw [RoomOp.call, mapOk_state]
    exact h.joinRoom hI hg (reqJoinRoom_step m comId req cinfo sig now) hok
  | leaveRoom comId roomId userId random =>
    rw [RoomOp.call, mapOk_state]
    exact h.leaveRoom hI (leaveRoom_step hI comId roomId userId random)
  | setRoomdataExternal comId req userId =>
    rw [RoomOp.call, mapOk_state]
    exact h.setOn (Room.setExternal_keeps req userId) comId req.roomId
  | setRoomdataInternal comId req userId now =>
    rw [RoomOp.call, mapOk_state]
    exact h.setOn (Room.setInternal_keeps req userId now) comId req.roomId
  | setRoommemberdataInternal comId req userId now =>
    rw [RoomOp.call, mapOk_state]
    exact h.setOn (Room.setMember_keeps req userId now) comId req.roomId

theorem Accounted.call_iff (hI : Inv m) (h : m.Accounted) (op : RoomOp)
    (hok : (op.call m).1.isOk = true) : (op.call m).2.Accounted ↔ GroupGuard m op := by
  refine ⟨fun h' => ?_, fun hg => h.call hI op hg fun _ _ _ _ _ _ => hok⟩
  cases op with
  | createRoom comId req cinfo serverId sig now =>
    rw [RoomOp.call, mapOk_isOk] at hok
    rw [RoomOp.call, mapOk_state] at h'
    have hs := createRoom_step m comId req cinfo serverId sig now
    generalize RoomManager.createRoom comId req cinfo serverId sig now m = x at hs hok h'
    obtain ⟨o, m'⟩ := x
    cases hs with
    | refused => cases hok
    | late => cases hok
    | created room resp hf hresp =>
      by_cases hne : room.groupConfig = []
      · obtain ⟨_, _, _, ⟨hreq, _⟩ | ⟨g, gs, label, _, _, _, hgc⟩⟩ := hf.creator
        · exact Or.inl hreq
        · rw [hgc] at hne
          cases hne
      · have hget : (m.stored comId room cinfo.userId).rooms.get? (comId, room.roomId) =
            some room := by
          show (m.rooms.insert (comId, room.roomId) room).get? _ = _
          rw [HashMap.get?_insert, if_pos rfl]
        exact Or.inr ((hf.accounted_iff hne).mp (h' _ _ hget hne))
  | joinRoom comId req cinfo sig now =>
    rw [RoomOp.call, mapOk_isOk] at hok
    rw [RoomOp.call, mapOk_state] at h'
    have hs := reqJoinRoom_step m comId req cinfo sig now
    generalize RoomManager.reqJoinRoom comId req cinfo sig now m = x at hs hok h'
    obtain ⟨o, m'⟩ := x
    cases hs with
    | absent => cases hok
    | failed => cases hok
    | stuck => cases hok
    | joined room r' memberId previous o _ hr hnew ha =>
      intro room' hr'
      obtain rfl := Option.some.inj (hr.symm.trans hr')
      intro k g hadm
      have hne : room.groupConfig ≠ [] := hadm.groups_ne_nil
      have hget : (m.joined (comId, req.roomId) room r' cinfo.userId).rooms.get?
          (comId, req.roomId) = some r' := by
        show (m.rooms.insert (comId, req.roomId) r').get? _ = _
        rw [HashMap.get?_insert, if_pos rfl]
      have hne' : r'.groupConfig ≠ [] :=
        groups_ne_nil_of_length (ha.groups_length (hI.wf hr).slots).symm hne
      exact (h _ _ hr hne).mayEnter (h' _ _ hget hne') ha k g hadm
  | leaveRoom => trivial
  | setRoomdataExternal => trivial
  | setRoomdataInternal => trivial
  | setRoommemberdataInternal => trivial

end RoomManager

/-! ## 2. Over whole runs -/

theorem accounted_of_run {es : List (RoomOp × RoomOutcome)}
    (h : (roomSystem.restrict GroupGuard).Run es m) (hjoins : JoinsReturned es) : m.Accounted := by
  revert hjoins
  refine h.history (I := fun es m => JoinsReturned es → m.Accounted) ?_ ?_
  · intro _ key r hget
    cases hget
  · intro es m op hrun ih hen hjoins
    have hold : m.Accounted := ih fun comId req cinfo sig now o hmem =>
      hjoins comId req cinfo sig now o (List.mem_append_left _ hmem)
    refine hold.call (inv_of_run hrun.unrestrict) op hen.2 fun comId req cinfo sig now e => ?_
    subst e
    exact hjoins comId req cinfo sig now _ (List.mem_append_right _ List.mem_cons_self)

/-- **Group accounting.** In every state of a run whose requests meet `GroupGuard` and whose joins
    return, in every room with groups: the ranges partition the slots; what a group counts is the
    number of its members and of the marked slots of its range, and fits; the search for a slot
    panics only for a joiner the condition excludes, and no leave takes a count below zero. And the
    condition is exact: a further request that returns keeps the accounts only if it meets it. -/
theorem room_group_accounting {es : List (RoomOp × RoomOutcome)} {m : RoomManager}
    (h : (roomSystem.restrict GroupGuard).Run es m) (hjoins : JoinsReturned es) :
    (∀ (key : ComId × UInt64) (room : Room), m.rooms.get? key = some room →
      room.groupConfig ≠ [] →
      (∀ slot, (1 ≤ slot ∧ slot ≤ room.maxSlot.toNat) ↔
        ∃! k, ∃ g, room.groupConfig[k]? = some g ∧ Room.InGroup room.groupConfig k g slot) ∧
      (∀ k g, room.groupConfig[k]? = some g →
        g.numMembers.toNat = room.membersAt k ∧ g.numMembers.toNat = room.occupiedAt k g ∧
          g.numMembers ≤ g.slotNum) ∧
      (∀ joinLabel password, (∃ p, (Room.getASlot joinLabel password room).1 = .panic p) ↔
        ∃ k g, room.Admits joinLabel password k g ∧ ¬ g.numMembers < g.slotNum) ∧
      (∀ (memberId : UInt16) (u : RoomUser), room.users[memberId]? = some u →
        ∃ g, room.groupConfig[u.groupId.toNat - 1]? = some g ∧ 1 ≤ g.numMembers.toNat)) ∧
    ∀ op : RoomOp, (op.call m).1.isOk = true → ((op.call m).2.Accounted ↔ GroupGuard m op) := by
  have hI := inv_of_run h.unrestrict
  have hacc := accounted_of_run h hjoins
  refine ⟨fun key room hr hne => ?_, fun op hok => hacc.call_iff hI op hok⟩
  have ha := hacc key room hr hne
  refine ⟨ha.partition, fun k g hg => ⟨ha.members hg, ha.occupied hg, ha.le hg⟩, ?_, ?_⟩
  · exact ha.getASlot_panic_iff (hI.wf hr).slots
  · exact fun memberId u hm => (ha.pos hm).2

/-! ### A room with two groups -/

def labelOf (b : UInt8) : List UInt8 := List.replicate 8 b

def roomOfTwoGroups : CreateJoinRoomRequest :=
  { roomForTwo with
    maxSlot := 3
    groupConfig := [⟨2, [], false⟩, ⟨1, [], false⟩]
    joinRoomGroupLabel := labelOf 1 }

def joinUnder (b : UInt8) : JoinRoomRequest where
  roomId := 1
  roomPassword := []
  joinRoomGroupLabel := labelOf b
  roomMemberBinAttrInternal := []
  optData := none
  teamId := some ⟨0⟩

def openTwoGroups : RoomOp :=
  .createRoom zeroComId roomOfTwoGroups (player 1) 0 ClientSharedSignalingInfo.new 0

def joinSecondGroup : RoomOp :=
  .joinRoom zeroComId (joinUnder 2) (player 2) ClientSharedSignalingInfo.new 0

def withTwoGroups : RoomManager :=
  (joinSecondGroup.call (openTwoGroups.call RoomManager.new).2).2

def openedTwoGroups : List (RoomOp × RoomOutcome) :=
  [(openTwoGroups, (openTwoGroups.call RoomManager.new).1),
    (joinSecondGroup, (joinSecondGroup.call (openTwoGroups.call RoomManager.new).2).1)]

theorem openedTwoGroups_returned : ∀ e ∈ openedTwoGroups, e.2.isOk = true := by
  intro e he
  rcases List.mem_cons.mp he with rfl | he
  · rfl
  · rw [List.mem_singleton.mp he]
    rfl

theorem joinSecondGroup_guard : GroupGuard (openTwoGroups.call RoomManager.new).2 joinSecondGroup := by
  intro room hr k g ha
  have hall : ((openTwoGroups.call RoomManager.new).2.rooms.get? (zeroComId, 1)).all
      (fun r => r.targetGroup (eightBytes (labelOf 2)) none = some 1 ∧
        (r.groupConfig[1]?).map Room.tally = some (1, 0)) = true := by decide
  rw [show (openTwoGroups.call RoomManager.new).2.rooms.get? (zeroComId, 1) = some room from hr,
    Option.all_some, decide_eq_true_eq] at hall
  obtain rfl : 1 = k := Option.some.inj (hall.1.symm.trans ha.target)
  refine ⟨by decide, ?_⟩
  have ht := hall.2
  rw [ha.group, Option.map_some, Option.some.injEq, Room.tally, Prod.mk.injEq] at ht
  rw [ht.1, ht.2]
  decide

theorem room_group_accounting_twoGroups :
    (roomSystem.restrict GroupGuard).Run openedTwoGroups withTwoGroups ∧
      JoinsReturned openedTwoGroups ∧
      ∃ room, withTwoGroups.rooms.get? (zeroComId, 1) = some room ∧ room.groupConfig ≠ [] ∧
        ∀ k g, room.groupConfig[k]? = some g →
          g.numMembers.toNat = room.membersAt k ∧ g.numMembers.toNat = room.occupiedAt k g ∧
            g.numMembers ≤ g.slotNum := by
  have hadd : Room.GroupsAddUp roomOfTwoGroups := by
    refine ⟨by decide, fun gc hgc => ?_⟩
    cases hgc
    decide
  have hopen : (roomSystem.restrict GroupGuard).enabled RoomManager.new openTwoGroups :=
    ⟨trivial, Or.inr hadd⟩
  have hrun : (roomSystem.restrict GroupGuard).Run openedTwoGroups withTwoGroups :=
    .step joinSecondGroup (.step openTwoGroups .start hopen) ⟨trivial, joinSecondGroup_guard⟩
  have hjoins : JoinsReturned openedTwoGroups :=
    fun _ _ _ _ _ _ hmem => openedTwoGroups_returned _ hmem
  have hsome : (withTwoGroups.rooms.get? (zeroComId, 1)).any (fun r => r.groupConfig ≠ []) =
      true := by decide
  obtain ⟨room, hr, hne⟩ := (Option.any_eq_true _ _).mp hsome
  have hne := of_decide_eq_true hne
  exact ⟨hrun, hjoins, room, hr, hne,
    ((room_group_accounting hrun hjoins).1 _ room hr hne).2.1⟩

/-- **The full label-less group**: with both groups' places taken but one, a third player under a
    third label is sent to the second group again, and the search reaches `unreachable!`. -/
theorem full_group_reaches_unreachable :
    ∃ es m room, roomSystem.Run es m ∧ (∀ e ∈ es, e.2.isOk = true) ∧
      m.rooms.get? (zeroComId, 1) = some room ∧ room.groupConfig ≠ [] ∧
      (Room.getASlot (eightBytes (labelOf 3)) none room).1 = .panic .reqSpecificSlots := by
  have hsome : (withTwoGroups.rooms.get? (zeroComId, 1)).any (fun r => r.groupConfig ≠ [] ∧
      (Room.getASlot (eightBytes (labelOf 3)) none r).1 = .panic .reqSpecificSlots) = true := by
    decide
  obtain ⟨room, hr, h⟩ := (Option.any_eq_true _ _).mp hsome
  obtain ⟨hne, hp⟩ := of_decide_eq_true h
  have hrun : roomSystem.Run openedTwoGroups withTwoGroups :=
    .step joinSecondGroup (.step openTwoGroups .start trivial) trivial
  exact ⟨openedTwoGroups, withTwoGroups, room, hrun, openedTwoGroups_returned, hr, hne, hp⟩

end Rpcn
