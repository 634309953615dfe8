/-
  File:      Rpcn/Room/JoinLeave.lean
  Subject:   JOINING AND LEAVING, on the room: what the two calls can do, and that a well-formed
             room stays one.
-/
import Rpcn.Room.Invariant

namespace Rpcn

open Lib Np2Structs Call
open Std (ExtTreeMap)

variable {r r' : Room} {req : JoinRoomRequest} {sig : ClientSharedSignalingInfo} {now : UInt64}
  {u member v : RoomUser} {o : Outcome ErrorType RoomPanic (UInt16 × Finset UserId)} {m : UInt16}
  {gone : Bool}

namespace Room

/-! ## 1. Joining -/

structure Knocks (r : Room) (req : JoinRoomRequest) : Prop where
  notFull : r.flagAttr &&& roomFlagAttrFull = 0
  label : req.joinRoomGroupLabel = [] ∨ req.joinRoomGroupLabel.length = 8
  password : req.roomPassword = [] ∨ req.roomPassword.length = 8

/-- **Everything `join_room` can do to the room.** The third way out is the late one: the slot was
    granted, and then the member data of the request did not convert. -/
inductive AdmitStep (r : Room) (req : JoinRoomRequest) (cinfo : ClientInfo)
    (sig : ClientSharedSignalingInfo) (now : UInt64) :
    Outcome ErrorType RoomPanic (UInt16 × Finset UserId) → Room → Prop where
  | refused (e : ErrorType) : AdmitStep r req cinfo sig now (.err e) r
  | stuck (p : RoomPanic) (r' : Room)
      (hs : SlotStep r (eightBytes req.joinRoomGroupLabel) (eightBytes req.roomPassword)
        (.panic p) r') :
      AdmitStep r req cinfo sig now (.panic p) r'
  | late (e : ErrorType) (groupId : UInt8) (memberId : UInt16) (r' : Room)
      (hs : SlotStep r (eightBytes req.joinRoomGroupLabel) (eightBytes req.roomPassword)
        (.ok (groupId, memberId)) r')
      (hu : RoomUser.fromJoinRoomRequest req sig now = .error e) (hk : r.Knocks req) :
      AdmitStep r req cinfo sig now (.err e) r'
  | admitted (groupId : UInt8) (memberId : UInt16) (r' : Room) (u : RoomUser)
      (hs : SlotStep r (eightBytes req.joinRoomGroupLabel) (eightBytes req.roomPassword)
        (.ok (groupId, memberId)) r')
      (hu : RoomUser.fromJoinRoomRequest req sig now = .ok u) :
      AdmitStep r req cinfo sig now (.ok (memberId, r.getRoomUserIds))
        (r'.addUser memberId (joiner u cinfo memberId groupId))

theorem letIn_of_knocks (h : r.Knocks req) (cinfo : ClientInfo) (sig : ClientSharedSignalingInfo)
    (now : UInt64) :
    letIn req cinfo sig now r = letInChecked req cinfo sig now r.getRoomUserIds r := by
  have h2 : ¬ (req.joinRoomGroupLabel ≠ [] ∧ req.joinRoomGroupLabel.length ≠ 8) :=
    fun hn => h.label.elim hn.1 hn.2
  have h3 : ¬ (req.roomPassword ≠ [] ∧ req.roomPassword.length ≠ 8) :=
    fun hn => h.password.elim hn.1 hn.2
  rw [letIn, bind_ok (read_run r), if_neg (not_not.mpr h.notFull), if_neg h2, if_neg h3]

theorem letIn_of_not_knocks (h : ¬ r.Knocks req) (cinfo : ClientInfo)
    (sig : ClientSharedSignalingInfo) (now : UInt64) :
    ∃ e, letIn req cinfo sig now r = (.err e, r) := by
  rw [letIn, bind_ok (read_run r)]
  by_cases h1 : r.flagAttr &&& roomFlagAttrFull ≠ 0
  · rw [if_pos h1]
    exact ⟨_, rfl⟩
  by_cases h2 : req.joinRoomGroupLabel ≠ [] ∧ req.joinRoomGroupLabel.length ≠ 8
  · rw [if_neg h1, if_pos h2]
    exact ⟨_, rfl⟩
  by_cases h3 : req.roomPassword ≠ [] ∧ req.roomPassword.length ≠ 8
  · rw [if_neg h1, if_neg h2, if_pos h3]
    exact ⟨_, rfl⟩
  · exact absurd ⟨not_not.mp h1, by tauto, by tauto⟩ h

theorem letIn_step (r : Room) (req : JoinRoomRequest) (cinfo : ClientInfo)
    (sig : ClientSharedSignalingInfo) (now : UInt64) :
    AdmitStep r req cinfo sig now (letIn req cinfo sig now r).1 (letIn req cinfo sig now r).2 := by
  by_cases hk : r.Knocks req
  swap
  · obtain ⟨e, he⟩ := letIn_of_not_knocks hk cinfo sig now
    rw [he]
    exact .refused e
  rw [letIn_of_knocks hk]
  have hs := getASlot_step r (eightBytes req.joinRoomGroupLabel) (eightBytes req.roomPassword)
  unfold letInChecked
  rcases hg : getASlot (eightBytes req.joinRoomGroupLabel) (eightBytes req.roomPassword) r with
    ⟨o, r'⟩
  rw [hg] at hs
  cases o with
  | err e =>
    rw [bind_err hg]
    cases hs
    exact .refused e
  | panic p =>
    rw [bind_panic hg]
    exact .stuck p r' hs
  | ok x =>
    obtain ⟨groupId, memberId⟩ := x
    rw [bind_ok hg]
    cases hu : RoomUser.fromJoinRoomRequest req sig now with
    | error e => exact .late e groupId memberId r' hs hu hk
    | ok u => exact .admitted groupId memberId r' u hs hu

theorem SlotStep.of_panic {joinLabel password : Option (Vector UInt8 8)} {p : RoomPanic}
    (h : SlotStep r joinLabel password (.panic p) r') : r' = r ∨ ∃ k, r' = r.bumpGroup k := by
  cases h with
  | short => exact Or.inl rfl
  | stuck k => exact Or.inr ⟨k, rfl⟩

theorem fromJoinRoomRequest_flagAttr (h : RoomUser.fromJoinRoomRequest req sig now = .ok u) :
    u.flagAttr = 0 := by
  unfold RoomUser.fromJoinRoomRequest at h
  cases ha : RoomUser.joinAttr req.roomMemberBinAttrInternal now with
  | error e =>
    rw [ha] at h
    cases h
  | ok a =>
    cases ht : Uint8.getVerifiedOpt req.teamId with
    | error e =>
      rw [ha, ht] at h
      cases h
    | ok t =>
      rw [ha, ht] at h
      cases h
      rfl

theorem joiner_isOwner (h : u.flagAttr = 0) (cinfo : ClientInfo) (memberId : UInt16)
    (groupId : UInt8) : (joiner u cinfo memberId groupId).isOwner = false := by
  simp [joiner, RoomUser.isOwner, h]

theorem Wf.letIn {cinfo : ClientInfo} (h : Wf r) (hnew : cinfo.userId ∉ r.getRoomUserIds)
    (hs : AdmitStep r req cinfo sig now o r') : Wf r' := by
  cases hs with
  | refused e => exact h
  | stuck p _ hs =>
    rcases hs.of_panic with rfl | ⟨k, rfl⟩
    · exact h
    · exact h.bumpGroup k
  | late e groupId memberId _ hs hu _ => exact h.granted (hs.granted h.slots)
  | admitted groupId memberId r₁ u hs hu =>
    exact h.addUser (hs.granted h.slots) rfl rfl
      (joiner_isOwner (fromJoinRoomRequest_flagAttr hu) cinfo memberId groupId) hnew

theorem AdmitStep.sameRoom {cinfo : ClientInfo} (h : Wf r)
    (hs : AdmitStep r req cinfo sig now o r') : SameRoom r r' := by
  cases hs with
  | refused e => exact .refl r
  | stuck p _ hs =>
    rcases hs.of_panic with rfl | ⟨k, rfl⟩
    · exact .refl r'
    · exact ⟨rfl, rfl, rfl⟩
  | late e groupId memberId _ hs hu _ => exact (hs.granted h.slots).sameRoom
  | admitted groupId memberId r₁ u hs hu =>
    have hg := hs.granted h.slots
    exact ⟨hg.worldId, hg.lobbyId, hg.roomId⟩

theorem AdmitStep.users_of_not_ok {cinfo : ClientInfo} (h : Wf r)
    (hs : AdmitStep r req cinfo sig now o r') (ho : o.isOk = false) : r'.users = r.users := by
  cases hs with
  | refused e => rfl
  | stuck p _ hs =>
    rcases hs.of_panic with rfl | ⟨k, rfl⟩
    · rfl
    · rfl
  | late e groupId memberId _ hs hu _ => exact (hs.granted h.slots).users
  | admitted groupId memberId r₁ u hs hu => cases ho

theorem AdmitStep.getRoomUserIds {cinfo : ClientInfo} {memberId : UInt16}
    {previous : Finset UserId} (h : Wf r)
    (hs : AdmitStep r req cinfo sig now (.ok (memberId, previous)) r') :
    r'.getRoomUserIds = insert cinfo.userId r.getRoomUserIds := by
  cases hs with
  | admitted groupId memberId r₁ u hs hu =>
    have hg := hs.granted h.slots
    ext userId
    rw [mem_getRoomUserIds, Finset.mem_insert, mem_getRoomUserIds]
    constructor
    · rintro ⟨m, v, hm, rfl⟩
      rcases addUser_member hm with ⟨_, rfl⟩ | ⟨_, hm⟩
      · exact Or.inl rfl
      · rw [hg.users] at hm
        exact Or.inr ⟨m, v, hm, rfl⟩
    · rintro (rfl | ⟨m, v, hm, rfl⟩)
      · exact ⟨memberId, joiner u cinfo memberId groupId, ExtTreeMap.getElem?_insert_self, rfl⟩
      · refine ⟨m, v, ?_, rfl⟩
        show (r₁.users.insert memberId _)[m]? = some v
        have hne : m ≠ memberId := fun e => hg.fresh h.slots hm (congrArg slotOf e)
        rw [TreeMap.getElem?_insert, if_neg hne, hg.users]
        exact hm

/-! ## 2. Leaving -/

theorem slotOf_pred (h : 1 ≤ slotOf m) : ((m >>> 4) - 1).toNat = slotOf m - 1 := by
  have h1 : (1 : UInt16) ≤ m >>> 4 := by
    rw [UInt16.le_iff_toNat_le]
    exact h
  rw [UInt16.toNat_sub_of_le _ _ h1]
  rfl

theorem groupId_pred {g : UInt8} (h : g ≠ 0) : (g - 1).toNat = g.toNat - 1 := by
  have h0 : g.toNat ≠ 0 := fun e => h (UInt8.toNat_inj.mp e)
  have h1 : (1 : UInt8) ≤ g := by
    rw [UInt8.le_iff_toNat_le]
    show 1 ≤ g.toNat
    omega
  rw [UInt8.toNat_sub_of_le _ _ h1]
  rfl

/-- The room after a member is gone, before anybody succeeds an owner. -/
def dropMember (r : Room) (memberId : UInt16) (member : RoomUser) : Room :=
  { r with
    users := r.users.erase memberId
    groupConfig :=
      if member.groupId = 0 then r.groupConfig
      else r.groupConfig.modify (member.groupId.toNat - 1) leaveGroup
    slots := r.slots.set (slotOf memberId - 1) false
    flagAttr :=
      if (r.users.erase memberId).size ≠ r.maxSlot.toNat then
        r.flagAttr &&& ~~~roomFlagAttrFull
      else r.flagAttr }

theorem releaseGroup_run {groupId : UInt8} (h : groupId.toNat ≤ r.groupConfig.length) :
    releaseGroup groupId r = (.ok (), { r with
      groupConfig :=
        if groupId = 0 then r.groupConfig
        else r.groupConfig.modify (groupId.toNat - 1) leaveGroup }) := by
  unfold releaseGroup
  by_cases h0 : groupId = 0
  · simp only [if_pos h0]
    rfl
  · have hpos : groupId.toNat ≠ 0 := fun e => h0 (UInt8.toNat_inj.mp e)
    have hk : groupId.toNat - 1 < r.groupConfig.length := by omega
    have hg := List.getElem?_eq_getElem hk
    simp only [if_neg h0, bind_run, read_run, groupId_pred h0, hg, unwrap_some,
      write_run]
    rw [List.modify_eq_set_getElem?, hg]
    rfl

theorem freeSlot_run (hpos : 1 ≤ slotOf m) (ht : r.slots[slotOf m - 1]? = some true) :
    freeSlot m r = (.ok (some ()), { r with slots := r.slots.set (slotOf m - 1) false }) := by
  unfold freeSlot
  simp only [bind_run, read_run, slotOf_pred hpos, ht, unwrap_some, if_true,
    write_run, pure_run]

theorem release_run (h : Wf r) (hm : r.users[m]? = some member) (random : Nat) :
    release member.userId random r =
      (if m = r.owner then do
        let foundSuccessor ← succeedOwner random
        return (!foundSuccessor, userIdsOf (r.users.erase m))
      else
        return (false, userIdsOf (r.users.erase m))) (r.dropMember m member) := by
  have hfind : r.findUser member.userId = m := by
    rw [findUser, h.memberOf_eq hm]
    rfl
  have hne : (m != 0) = true := bne_iff_ne.mpr (h.slots.memberId_ne_zero hm)
  unfold release
  simp only [bind_run, read_run, hfind, hne, check_true, hm, unwrap_some,
    write_run]
  rw [releaseGroup_run (r := { r with users := r.users.erase m }) (h.group_le hm)]
  simp only
  rw [freeSlot_run (h.slots.slot_pos hm)]
  · rfl
  · exact h.slots.slot_taken hm

/-! ### Succession -/

theorem popSuccessor_fst (users : ExtTreeMap UInt16 RoomUser) (l : List UInt16) :
    (popSuccessor users l).1 = l.find? (users.contains ·) := by
  induction l with
  | nil => rfl
  | cons s rest ih =>
    rw [popSuccessor, List.find?_cons]
    cases users.contains s with
    | true => rfl
    | false => exact ih

theorem succeedOwner_cases (r : Room) (random : Nat) :
    (∃ s rest, s ∈ r.users ∧
      (∀ t, r.ownerSuccession.find? (r.users.contains ·) = some t → s = t) ∧
      succeedOwner random r = (.ok true, { r with ownerSuccession := rest }.makeOwner s)) ∨
    (∃ rest, r.users.isEmpty = true ∧
      succeedOwner random r = (.ok false, { r with ownerSuccession := rest })) := by
  have hfst := popSuccessor_fst r.users r.ownerSuccession
  rcases hp : popSuccessor r.users r.ownerSuccession with ⟨o, rest⟩
  rw [hp] at hfst
  cases o with
  | some s =>
    refine Or.inl ⟨s, rest, ?_, ?_, ?_⟩
    · have := List.find?_some hfst.symm
      exact ExtTreeMap.contains_iff_mem.mp this
    · intro t ht
      rw [← hfst] at ht
      exact Option.some.inj ht
    · simp [succeedOwner, bind_run, hp]
  | none =>
    by_cases he : r.users.isEmpty = true
    · refine Or.inr ⟨rest, he, ?_⟩
      simp only [succeedOwner, bind_run, read_run, hp, modify_run, if_pos he,
        pure_run]
    · have hsize : r.users.size ≠ 0 := by
        intro h0
        rw [ExtTreeMap.isEmpty_eq_size_beq_zero, h0] at he
        exact he rfl
      have hlt : random % r.users.size < r.users.keys.length := by
        rw [ExtTreeMap.length_keys]
        exact Nat.mod_lt _ (Nat.pos_of_ne_zero hsize)
      refine Or.inl ⟨r.users.keys[random % r.users.size], rest, ?_, ?_, ?_⟩
      · exact ExtTreeMap.mem_keys.mp (List.getElem_mem hlt)
      · intro t ht
        rw [← hfst] at ht
        cases ht
      · simp only [succeedOwner, bind_run, read_run, hp, modify_run, if_neg he,
          List.getElem?_eq_getElem hlt, unwrap_some, pure_run]

/-- **Everything `leave_room` does to the room of a member**: the flag says that nobody is left. -/
inductive ReleaseStep (r : Room) (m : UInt16) (member : RoomUser) : Bool → Room → Prop where
  | stays (ho : m ≠ r.owner) : ReleaseStep r m member false (r.dropMember m member)
  | handed (s : UInt16) (rest : List UInt16) (ho : m = r.owner) (hs : s ∈ r.users.erase m)
      (hfirst : ∀ t, r.ownerSuccession.find? ((r.users.erase m).contains ·) = some t → s = t) :
      ReleaseStep r m member false
        ({ r.dropMember m member with ownerSuccession := rest }.makeOwner s)
  | last (rest : List UInt16) (ho : m = r.owner) (he : (r.users.erase m).isEmpty = true) :
      ReleaseStep r m member true { r.dropMember m member with ownerSuccession := rest }

theorem release_step (h : Wf r) (hm : r.users[m]? = some member) (random : Nat) :
    ∃ gone r', release member.userId random r = (.ok (gone, userIdsOf (r.users.erase m)), r') ∧
      ReleaseStep r m member gone r' := by
  rw [release_run h hm]
  by_cases ho : m = r.owner
  · rw [if_pos ho]
    rcases succeedOwner_cases (r.dropMember m member) random with
      ⟨s, rest, hs, hfirst, hrun⟩ | ⟨rest, he, hrun⟩
    · rw [bind_ok hrun]
      exact ⟨_, _, rfl, .handed s rest ho hs hfirst⟩
    · rw [bind_ok hrun]
      exact ⟨_, _, rfl, .last rest ho he⟩
  · rw [if_neg ho]
    exact ⟨_, _, rfl, .stays ho⟩

/-! ### The room after a leave -/

theorem dropMember_member {m' : UInt16} (h : (r.dropMember m member).users[m']? = some v) :
    m' ≠ m ∧ r.users[m']? = some v := by
  have h : (r.users.erase m)[m']? = some v := h
  rw [TreeMap.getElem?_erase] at h
  by_cases e : m' = m
  · rw [if_pos e] at h
    cases h
  · rw [if_neg e] at h
    exact ⟨e, h⟩

theorem dropMember_groups_length (r : Room) (m : UInt16) (member : RoomUser) :
    (r.dropMember m member).groupConfig.length = r.groupConfig.length := by
  show (if _ then _ else _ : List RoomGroupConfig).length = _
  split
  · rfl
  · exact List.length_modify _ _ _

theorem Seated.dropMember (h : Seated r) (hm : r.users[m]? = some member) :
    Seated (r.dropMember m member) where
  slots := {
    maxSlot_pos := h.slots.maxSlot_pos
    maxSlot_le := h.slots.maxSlot_le
    slots_length := by
      show (r.slots.set _ _).length = _
      rw [List.length_set]
      exact h.slots.slots_length
    counter_lt := h.slots.counter_lt
    memberId_eq := fun hm' => h.slots.memberId_eq (dropMember_member hm').2
    slot_pos := fun hm' => h.slots.slot_pos (dropMember_member hm').2
    slot_taken := fun {m' v} hm' => by
      obtain ⟨hne, hv⟩ := dropMember_member hm'
      have hslot : slotOf m' ≠ slotOf m := fun e => hne (h.slots.slot_inj hv hm e)
      have h1 := h.slots.slot_pos hv
      have h2 := h.slots.slot_pos hm
      show (r.slots.set _ _)[_]? = _
      rw [List.getElem?_set_ne (by omega)]
      exact h.slots.slot_taken hv
    slot_inj := fun hm' hm'' e =>
      h.slots.slot_inj (dropMember_member hm').2 (dropMember_member hm'').2 e }
  user_inj := fun hm' hm'' e => h.user_inj (dropMember_member hm').2 (dropMember_member hm'').2 e
  group_le := fun hm' => by
    rw [dropMember_groups_length]
    exact h.group_le (dropMember_member hm').2

theorem makeOwner_member {s : UInt16} (h : (r.makeOwner s).users[m]? = some v) :
    ∃ u, r.users[m]? = some u ∧
      v = if m = s then { u with flagAttr := u.flagAttr ||| roomMemberFlagAttrOwner } else u := by
  have h : (r.users.modify s _)[m]? = some v := h
  rw [TreeMap.getElem?_modify] at h
  by_cases e : m = s
  · rw [if_pos e, Option.map_eq_some_iff] at h
    obtain ⟨u, hu, hv⟩ := h
    exact ⟨u, hu, by rw [if_pos e]; exact hv.symm⟩
  · rw [if_neg e] at h
    exact ⟨v, h, by rw [if_neg e]⟩

theorem or_owner_and_owner (x : UInt32) :
    (x ||| roomMemberFlagAttrOwner) &&& roomMemberFlagAttrOwner ≠ 0 := by
  intro h
  have h31 : ((x ||| roomMemberFlagAttrOwner) &&& roomMemberFlagAttrOwner).toNat.testBit 31 =
      true := by
    rw [UInt32.toNat_and, UInt32.toNat_or, Nat.testBit_and, Nat.testBit_or]
    have : roomMemberFlagAttrOwner.toNat.testBit 31 = true := by decide
    rw [this]
    simp
  rw [h] at h31
  exact absurd h31 (by decide)

theorem Seated.makeOwner (h : Seated r) (s : UInt16) (rest : List UInt16) :
    Seated ({ r with ownerSuccession := rest }.makeOwner s) := by
  have back : ∀ {m : UInt16} {v : RoomUser},
      ({ r with ownerSuccession := rest }.makeOwner s).users[m]? = some v →
      ∃ u, r.users[m]? = some u ∧ v.userId = u.userId ∧ v.memberId = u.memberId ∧
        v.groupId = u.groupId := by
    intro m v hm
    obtain ⟨u, hu, rfl⟩ := makeOwner_member hm
    refine ⟨u, hu, ?_⟩
    split <;> exact ⟨rfl, rfl, rfl⟩
  constructor
  · constructor
    · exact h.slots.maxSlot_pos
    · exact h.slots.maxSlot_le
    · exact h.slots.slots_length
    · exact h.slots.counter_lt
    · intro m v hm
      obtain ⟨u, hu, _, e, _⟩ := back hm
      rw [e, h.slots.memberId_eq hu]
    · intro m v hm
      obtain ⟨u, hu, _⟩ := back hm
      exact h.slots.slot_pos hu
    · intro m v hm
      obtain ⟨u, hu, _⟩ := back hm
      exact h.slots.slot_taken hu
    · intro m m' v v' hm hm' e
      obtain ⟨u, hu, _⟩ := back hm
      obtain ⟨u', hu', _⟩ := back hm'
      exact h.slots.slot_inj hu hu' e
  · intro m m' v v' hm hm' e
    obtain ⟨u, hu, eu, _⟩ := back hm
    obtain ⟨u', hu', eu', _⟩ := back hm'
    exact h.user_inj hu hu' (by rw [← eu, ← eu', e])
  · intro m v hm
    obtain ⟨u, hu, _, _, e⟩ := back hm
    rw [e]
    exact h.group_le hu

theorem Wf.released (h : Wf r) (hm : r.users[m]? = some member)
    (hs : ReleaseStep r m member false r') : Wf r' := by
  have hseat := h.toSeated.dropMember hm
  cases hs with
  | stays ho =>
    refine ⟨hseat, ?_, ?_⟩
    · obtain ⟨u, hu⟩ := h.owner.owner_mem
      refine ⟨u, ?_⟩
      show (r.users.erase m)[r.owner]? = some u
      rw [TreeMap.getElem?_erase, if_neg (Ne.symm ho)]
      exact hu
    · intro m' v hm'
      exact h.owner.isOwner_iff (dropMember_member hm').2
  | handed s rest ho hs hfirst =>
    refine ⟨hseat.makeOwner s rest, ?_, ?_⟩
    · obtain ⟨u, hu⟩ : ∃ u, (r.users.erase m)[s]? = some u :=
        ⟨_, ExtTreeMap.getElem?_eq_some_getElem hs⟩
      refine ⟨{ u with flagAttr := u.flagAttr ||| roomMemberFlagAttrOwner }, ?_⟩
      show ((r.users.erase m).modify s _)[s]? = _
      rw [TreeMap.getElem?_modify, if_pos rfl, hu]
      rfl
    · intro m' v hm'
      obtain ⟨u, hu, rfl⟩ := makeOwner_member hm'
      have hu' : (r.dropMember m member).users[m']? = some u := hu
      obtain ⟨hne, hu⟩ := dropMember_member hu'
      show _ ↔ m' = s
      by_cases e : m' = s
      · rw [if_pos e]
        simp only [RoomUser.isOwner, bne_iff_ne]
        exact ⟨fun _ => e, fun _ => or_owner_and_owner _⟩
      · -- the old owner is gone, so nobody else carries the flag
        rw [if_neg e, h.owner.isOwner_iff hu]
        exact ⟨fun h' => absurd (h'.trans ho.symm) hne, fun h' => absurd h' e⟩

theorem ReleaseStep.sameRoom (hs : ReleaseStep r m member gone r') : SameRoom r r' := by
  cases hs <;> exact ⟨rfl, rfl, rfl⟩

theorem userIdsOf_erase (h : Seated r) (hm : r.users[m]? = some member) :
    (userIdsOf (r.users.erase m)).toFinset = r.getRoomUserIds.erase member.userId := by
  have e : (userIdsOf (r.users.erase m)).toFinset = (r.dropMember m member).getRoomUserIds := rfl
  ext userId
  rw [e, Finset.mem_erase, mem_getRoomUserIds, mem_getRoomUserIds]
  constructor
  · rintro ⟨m', u, hu, rfl⟩
    obtain ⟨hne, hu⟩ := dropMember_member hu
    exact ⟨fun e => hne (h.user_inj hu hm e), m', u, hu, rfl⟩
  · rintro ⟨hne, m', u, hu, rfl⟩
    refine ⟨m', u, ?_, rfl⟩
    show (r.users.erase m)[m']? = some u
    rw [TreeMap.getElem?_erase, if_neg, hu]
    rintro rfl
    rw [hm] at hu
    exact hne (congrArg RoomUser.userId (Option.some.inj hu).symm)

theorem getRoomUserIds_makeOwner (r : Room) (s : UInt16) (rest : List UInt16) :
    ({ r with ownerSuccession := rest }.makeOwner s).getRoomUserIds = r.getRoomUserIds := by
  ext userId
  rw [mem_getRoomUserIds, mem_getRoomUserIds]
  constructor
  · rintro ⟨m, v, hm, rfl⟩
    obtain ⟨u, hu, rfl⟩ := makeOwner_member hm
    exact ⟨m, u, hu, by split <;> rfl⟩
  · rintro ⟨m, u, hu, rfl⟩
    have e : ({ r with ownerSuccession := rest }.makeOwner s).users[m]? = if m = s then
        some { u with flagAttr := u.flagAttr ||| roomMemberFlagAttrOwner } else some u := by
      show (r.users.modify s _)[m]? = _
      rw [TreeMap.getElem?_modify, hu]
      rfl
    by_cases hs : m = s
    · refine ⟨m, { u with flagAttr := u.flagAttr ||| roomMemberFlagAttrOwner }, ?_, rfl⟩
      rw [e, if_pos hs]
    · exact ⟨m, u, by rw [e, if_neg hs], rfl⟩

theorem ReleaseStep.getRoomUserIds (h : Seated r) (hm : r.users[m]? = some member)
    (hs : ReleaseStep r m member gone r') :
    r'.getRoomUserIds = r.getRoomUserIds.erase member.userId := by
  rw [← userIdsOf_erase h hm]
  cases hs with
  | stays ho => rfl
  | handed s rest ho hs hfirst => exact getRoomUserIds_makeOwner _ s rest
  | last rest ho he => rfl

theorem ReleaseStep.gone_iff (h : Wf r) (hs : ReleaseStep r m member gone r') :
    gone = true ↔ ∀ m' : UInt16, r.users[m']? ≠ none → m' = m := by
  cases hs with
  | stays ho =>
    refine ⟨fun e => (by cases e), fun hall => absurd (hall r.owner ?_).symm ho⟩
    obtain ⟨u, hu⟩ := h.owner.owner_mem
    rw [hu]
    exact Option.some_ne_none u
  | handed s rest ho hs hfirst =>
    refine ⟨fun e => (by cases e), fun hall => ?_⟩
    have hs' := ExtTreeMap.getElem?_eq_some_getElem hs
    rw [TreeMap.getElem?_erase] at hs'
    by_cases e : s = m
    · rw [if_pos e] at hs'
      cases hs'
    · rw [if_neg e] at hs'
      exact absurd (hall s (by rw [hs']; exact Option.some_ne_none _)) e
  | last rest ho he =>
    refine ⟨fun _ m' hm' => ?_, fun _ => rfl⟩
    by_contra e
    rw [ExtTreeMap.isEmpty_iff] at he
    have hnone : (r.users.erase m)[m']? = none := by
      rw [he]
      exact ExtTreeMap.getElem?_empty
    rw [TreeMap.getElem?_erase, if_neg e] at hnone
    exact hm' hnone

end Room

end Rpcn
