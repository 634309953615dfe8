/-
  File:      Rpcn/Room/Invariant.lean
  Subject:   THE WELL-FORMED ROOM, and what the building blocks of the room calls do to it.

  `SameSeats` is the relation between a room before and after a call that neither moves a member
  nor a slot; the setters are such calls, and `Wf` goes through it.
-/
import Rpcn.Lib.TreeMap
import Rpcn.Room.SlotSpec

namespace Rpcn

open Lib Np2Structs
open Std (ExtTreeMap)

def RoomUser.isOwner (u : RoomUser) : Bool := u.flagAttr &&& roomMemberFlagAttrOwner != 0

variable {r r' : Room} {m memberId : UInt16} {u u' : RoomUser} {userId : UserId} {groupId : UInt8}

namespace Room

/-! ## 1. The invariant -/

def slotOf (m : UInt16) : Nat := (m >>> 4).toNat

structure SlotDiscipline (r : Room) : Prop where
  maxSlot_pos : 0 < r.maxSlot.toNat
  maxSlot_le : r.maxSlot.toNat ≤ 64
  slots_length : r.slots.length = r.maxSlot.toNat
  counter_lt : r.memberIdCounter.toNat < 16
  memberId_eq : ∀ {m : UInt16} {u : RoomUser}, r.users[m]? = some u → u.memberId = m
  slot_pos : ∀ {m : UInt16} {u : RoomUser}, r.users[m]? = some u → 1 ≤ slotOf m
  slot_taken : ∀ {m : UInt16} {u : RoomUser}, r.users[m]? = some u → r.slots[slotOf m - 1]? = some true
  slot_inj : ∀ {m m' : UInt16} {u u' : RoomUser}, r.users[m]? = some u →
    r.users[m']? = some u' → slotOf m = slotOf m' → m = m'

structure SingleOwner (r : Room) : Prop where
  owner_mem : ∃ u, r.users[r.owner]? = some u
  isOwner_iff : ∀ {m : UInt16} {u : RoomUser}, r.users[m]? = some u → (u.isOwner = true ↔ m = r.owner)

structure Seated (r : Room) : Prop where
  slots : SlotDiscipline r
  user_inj : ∀ {m m' : UInt16} {u u' : RoomUser}, r.users[m]? = some u →
    r.users[m']? = some u' → u.userId = u'.userId → m = m'
  group_le : ∀ {m : UInt16} {u : RoomUser}, r.users[m]? = some u →
    u.groupId.toNat ≤ r.groupConfig.length

structure Wf (r : Room) : Prop extends Seated r where
  owner : SingleOwner r

theorem SlotDiscipline.slot_le (h : SlotDiscipline r) (hm : r.users[m]? = some u) :
    slotOf m ≤ r.maxSlot.toNat := by
  have h1 := h.slot_taken hm
  have h2 := (List.getElem?_eq_some_iff.mp h1).1
  rw [h.slots_length] at h2
  omega

theorem SlotDiscipline.memberId_ne_zero (h : SlotDiscipline r) (hm : r.users[m]? = some u) :
    m ≠ 0 := by
  intro e
  have h1 := h.slot_pos hm
  rw [e] at h1
  exact absurd h1 (by decide)

/-! ## 2. Members by user id -/

theorem mem_getRoomUserIds :
    userId ∈ r.getRoomUserIds ↔
      ∃ (m : UInt16) (u : RoomUser), r.users[m]? = some u ∧ u.userId = userId := by
  rw [getRoomUserIds, List.mem_toFinset, userIdsOf, List.mem_map]
  constructor
  · rintro ⟨⟨m, u⟩, hmem, rfl⟩
    exact ⟨m, u, ExtTreeMap.mem_toList_iff_getElem?_eq_some.mp hmem, rfl⟩
  · rintro ⟨m, u, hm, rfl⟩
    exact ⟨(m, u), ExtTreeMap.mem_toList_iff_getElem?_eq_some.mpr hm, rfl⟩

theorem getRoomUserIds_congr (h : r'.users = r.users) : r'.getRoomUserIds = r.getRoomUserIds := by
  rw [getRoomUserIds, getRoomUserIds, h]

theorem Seated.memberOf_eq (h : Seated r) (hm : r.users[m]? = some u) :
    r.memberOf u.userId = some m := by
  have hmem : (m, u) ∈ r.users.toList := ExtTreeMap.mem_toList_iff_getElem?_eq_some.mpr hm
  unfold memberOf
  cases hf : r.users.toList.find? fun p => p.2.userId = u.userId with
  | none =>
    rw [List.find?_eq_none] at hf
    exact absurd (by simp) (hf _ hmem)
  | some p =>
    obtain ⟨m', u'⟩ := p
    have hp : u'.userId = u.userId := by simpa using List.find?_some hf
    have hm' : r.users[m']? = some u' :=
      ExtTreeMap.mem_toList_iff_getElem?_eq_some.mp (List.mem_of_find?_eq_some hf)
    rw [h.user_inj hm' hm hp]
    rfl

theorem memberOf_some (h : r.memberOf userId = some m) :
    ∃ u, r.users[m]? = some u ∧ u.userId = userId := by
  unfold memberOf at h
  rw [Option.map_eq_some_iff] at h
  obtain ⟨⟨m', u⟩, hf, rfl⟩ := h
  exact ⟨u, ExtTreeMap.mem_toList_iff_getElem?_eq_some.mp (List.mem_of_find?_eq_some hf),
    by simpa using List.find?_some hf⟩

theorem memberOf_none (h : r.memberOf userId = none) : userId ∉ r.getRoomUserIds := by
  intro hmem
  obtain ⟨m, u, hm, hu⟩ := mem_getRoomUserIds.mp hmem
  unfold memberOf at h
  rw [Option.map_eq_none_iff, List.find?_eq_none] at h
  exact h (m, u) (ExtTreeMap.mem_toList_iff_getElem?_eq_some.mpr hm) (by simpa using hu)

theorem Seated.getRoomUserIds_eq_singleton (h : Seated r) {mid : UInt16} {member : RoomUser}
    (hm : r.users[mid]? = some member) :
    r.getRoomUserIds = {member.userId} ↔ ∀ m' : UInt16, r.users[m']? ≠ none → m' = mid := by
  constructor
  · intro he m' hm'
    obtain ⟨u, hu⟩ := Option.ne_none_iff_exists'.mp hm'
    have : u.userId ∈ r.getRoomUserIds := mem_getRoomUserIds.mpr ⟨m', u, hu, rfl⟩
    rw [he, Finset.mem_singleton] at this
    exact h.user_inj hu hm this
  · intro hall
    ext userId
    rw [mem_getRoomUserIds, Finset.mem_singleton]
    constructor
    · rintro ⟨m', u, hu, rfl⟩
      have e := hall m' (by rw [hu]; exact Option.some_ne_none u)
      rw [e, hm] at hu
      rw [Option.some.inj hu]
    · rintro rfl
      exact ⟨mid, member, hm, rfl⟩

/-! ## 3. Calls that move nobody -/

/-- The number of members whose group id designates the group at index `k`. -/
def membersAt (r : Room) (k : Nat) : Nat :=
  r.users.toList.countP fun p => p.2.groupId.toNat = k + 1

/-- A member's place in the room: who, under which id, in which group, with which flags. -/
def seat (u : RoomUser) : UserId × UInt16 × UInt8 × UInt32 :=
  (u.userId, u.memberId, u.groupId, u.flagAttr)

def tally (g : RoomGroupConfig) : UInt32 × UInt32 := (g.slotNum, g.numMembers)

structure SameSeats (r r' : Room) : Prop where
  worldId : r'.worldId = r.worldId
  lobbyId : r'.lobbyId = r.lobbyId
  roomId : r'.roomId = r.roomId
  maxSlot : r'.maxSlot = r.maxSlot
  slots : r'.slots = r.slots
  counter : r'.memberIdCounter = r.memberIdCounter
  owner : r'.owner = r.owner
  groups : r'.groupConfig.map tally = r.groupConfig.map tally
  seats : ∀ m : UInt16, (r'.users[m]?).map seat = (r.users[m]?).map seat
  members : ∀ k, r'.membersAt k = r.membersAt k

theorem SameSeats.refl (r : Room) : SameSeats r r := by
  constructor <;> intros <;> rfl

theorem SameSeats.groups_length (h : SameSeats r r') :
    r'.groupConfig.length = r.groupConfig.length := by
  have e := congrArg List.length h.groups
  rwa [List.length_map, List.length_map] at e

theorem SameSeats.back (h : SameSeats r r') (hm : r'.users[m]? = some u') :
    ∃ u, r.users[m]? = some u ∧ seat u' = seat u := by
  have e := h.seats m
  rw [hm, Option.map_some, eq_comm, Option.map_eq_some_iff] at e
  obtain ⟨u, hu, hs⟩ := e
  exact ⟨u, hu, hs.symm⟩

theorem SameSeats.forth (h : SameSeats r r') (hm : r.users[m]? = some u) :
    ∃ u', r'.users[m]? = some u' ∧ seat u' = seat u := by
  have e := h.seats m
  rw [hm, Option.map_some, Option.map_eq_some_iff] at e
  exact e

theorem seat_eq (h : seat u' = seat u) :
    u'.userId = u.userId ∧ u'.memberId = u.memberId ∧ u'.groupId = u.groupId ∧
      u'.isOwner = u.isOwner := by
  obtain ⟨h1, h2, h3, h4⟩ : u'.userId = u.userId ∧ u'.memberId = u.memberId ∧
      u'.groupId = u.groupId ∧ u'.flagAttr = u.flagAttr := by
    simpa only [seat, Prod.mk.injEq] using h
  exact ⟨h1, h2, h3, by rw [RoomUser.isOwner, RoomUser.isOwner, h4]⟩

theorem Wf.sameSeats (h : Wf r) (hs : SameSeats r r') : Wf r' where
  slots := {
    maxSlot_pos := by rw [hs.maxSlot]; exact h.slots.maxSlot_pos
    maxSlot_le := by rw [hs.maxSlot]; exact h.slots.maxSlot_le
    slots_length := by rw [hs.maxSlot, hs.slots]; exact h.slots.slots_length
    counter_lt := by rw [hs.counter]; exact h.slots.counter_lt
    memberId_eq := fun hm => by
      obtain ⟨u, hu, e⟩ := hs.back hm
      rw [(seat_eq e).2.1, h.slots.memberId_eq hu]
    slot_pos := fun hm => by
      obtain ⟨u, hu, _⟩ := hs.back hm
      exact h.slots.slot_pos hu
    slot_taken := fun hm => by
      obtain ⟨u, hu, _⟩ := hs.back hm
      rw [hs.slots]
      exact h.slots.slot_taken hu
    slot_inj := fun hm hm' e => by
      obtain ⟨u, hu, _⟩ := hs.back hm
      obtain ⟨u', hu', _⟩ := hs.back hm'
      exact h.slots.slot_inj hu hu' e }
  owner := {
    owner_mem := by
      obtain ⟨u, hu⟩ := h.owner.owner_mem
      rw [hs.owner]
      obtain ⟨u', hu', _⟩ := hs.forth hu
      exact ⟨u', hu'⟩
    isOwner_iff := fun hm => by
      obtain ⟨u, hu, e⟩ := hs.back hm
      rw [(seat_eq e).2.2.2, hs.owner]
      exact h.owner.isOwner_iff hu }
  user_inj := fun hm hm' e => by
    obtain ⟨u, hu, eu⟩ := hs.back hm
    obtain ⟨u', hu', eu'⟩ := hs.back hm'
    refine h.user_inj hu hu' ?_
    rw [← (seat_eq eu).1, ← (seat_eq eu').1, e]
  group_le := fun hm => by
    obtain ⟨u, hu, e⟩ := hs.back hm
    rw [(seat_eq e).2.2.1, hs.groups_length]
    exact h.group_le hu

theorem SameSeats.getRoomUserIds (hs : SameSeats r r') : r'.getRoomUserIds = r.getRoomUserIds := by
  ext userId
  rw [mem_getRoomUserIds, mem_getRoomUserIds]
  constructor
  · rintro ⟨m, u, hm, rfl⟩
    obtain ⟨u', hu', e⟩ := hs.back hm
    exact ⟨m, u', hu', (seat_eq e).1.symm⟩
  · rintro ⟨m, u, hm, rfl⟩
    obtain ⟨u', hu', e⟩ := hs.forth hm
    exact ⟨m, u', hu', (seat_eq e).1⟩

structure SameRoom (r r' : Room) : Prop where
  worldId : r'.worldId = r.worldId
  lobbyId : r'.lobbyId = r.lobbyId
  roomId : r'.roomId = r.roomId

theorem SameRoom.refl (r : Room) : SameRoom r r := ⟨rfl, rfl, rfl⟩

theorem SameSeats.sameRoom (h : SameSeats r r') : SameRoom r r' :=
  ⟨h.worldId, h.lobbyId, h.roomId⟩

/-! ## 4. A slot is granted -/

@[simp] theorem length_bumpGroup (r : Room) (k : Nat) :
    (r.bumpGroup k).groupConfig.length = r.groupConfig.length := by
  simp [bumpGroup]

structure Granted (r : Room) (groupId : UInt8) (memberId : UInt16) (r' : Room) : Prop where
  worldId : r'.worldId = r.worldId
  lobbyId : r'.lobbyId = r.lobbyId
  roomId : r'.roomId = r.roomId
  maxSlot : r'.maxSlot = r.maxSlot
  users : r'.users = r.users
  owner : r'.owner = r.owner
  slot_pos : 1 ≤ slotOf memberId
  free : r.slots[slotOf memberId - 1]? = some false
  slots : r'.slots = r.slots.set (slotOf memberId - 1) true
  counter_lt : r'.memberIdCounter.toNat < 16
  groups_length : r'.groupConfig.length = r.groupConfig.length
  group_le : groupId.toNat ≤ r.groupConfig.length

theorem Granted.sameRoom (h : Granted r groupId memberId r') : SameRoom r r' :=
  ⟨h.worldId, h.lobbyId, h.roomId⟩

theorem SlotDiscipline.free_le (h : SlotDiscipline r) {slot : Nat}
    (hfree : r.slots[slot - 1]? = some false) : slot ≤ 64 := by
  have h1 := (List.getElem?_eq_some_iff.mp hfree).1
  have h2 := h.maxSlot_le
  rw [h.slots_length] at h1
  omega

theorem toUInt8_le (n : Nat) : n.toUInt8.toNat ≤ n := by
  rw [Nat.toUInt8, UInt8.toNat_ofNat']
  exact Nat.mod_le _ _

theorem SlotStep.granted {joinLabel password : Option (Vector UInt8 8)} (h : SlotDiscipline r)
    (hs : SlotStep r joinLabel password (.ok (groupId, memberId)) r') :
    Granted r groupId memberId r' := by
  cases hs with
  | group k g slot ha hin hfree =>
    have e : slotOf (r.slotMemberId slot) = slot :=
      slotMemberId_slot (h.free_le hfree) h.counter_lt
    have hk := (List.getElem?_eq_some_iff.mp ha.group).1
    refine ⟨rfl, rfl, rfl, rfl, rfl, rfl, ?_, ?_, ?_, markSlot_counter _ _, ?_, ?_⟩
    · rw [e]
      exact le_trans (Nat.le_add_right 1 _) hin.1
    · rw [e]
      exact hfree
    · rw [e]
      rfl
    · exact length_bumpGroup r k
    · exact le_trans (toUInt8_le _) hk
  | single slot hg hp hs =>
    obtain ⟨hlo, _, hfree⟩ := hs.free
    have e : slotOf (r.slotMemberId slot) = slot :=
      slotMemberId_slot (h.free_le hfree) h.counter_lt
    refine ⟨rfl, rfl, rfl, rfl, rfl, rfl, ?_, ?_, ?_, markSlot_counter _ _, rfl, Nat.zero_le _⟩
    · rw [e]
      exact hlo
    · rw [e]
      exact hfree
    · rw [e]
      rfl

theorem Granted.fresh (h : SlotDiscipline r) (hg : Granted r groupId memberId r')
    (hm : r.users[m]? = some u) : slotOf m ≠ slotOf memberId := by
  intro e
  have h1 := h.slot_taken hm
  rw [e, hg.free] at h1
  cases h1

theorem Wf.granted (h : Wf r) (hg : Granted r groupId memberId r') : Wf r' where
  slots := {
    maxSlot_pos := by rw [hg.maxSlot]; exact h.slots.maxSlot_pos
    maxSlot_le := by rw [hg.maxSlot]; exact h.slots.maxSlot_le
    slots_length := by
      rw [hg.maxSlot, hg.slots, List.length_set]
      exact h.slots.slots_length
    counter_lt := hg.counter_lt
    memberId_eq := fun hm => h.slots.memberId_eq (by rwa [hg.users] at hm)
    slot_pos := fun hm => h.slots.slot_pos (by rwa [hg.users] at hm)
    slot_taken := fun {m u} hm => by
      rw [hg.users] at hm
      have hne := hg.fresh h.slots hm
      have hpos := h.slots.slot_pos hm
      have hpos' := hg.slot_pos
      rw [hg.slots, List.getElem?_set_ne (by omega)]
      exact h.slots.slot_taken hm
    slot_inj := fun hm hm' e => by
      rw [hg.users] at hm hm'
      exact h.slots.slot_inj hm hm' e }
  owner := {
    owner_mem := by rw [hg.users, hg.owner]; exact h.owner.owner_mem
    isOwner_iff := fun hm => by
      rw [hg.users] at hm
      rw [hg.owner]
      exact h.owner.isOwner_iff hm }
  user_inj := fun hm hm' e => by
    rw [hg.users] at hm hm'
    exact h.user_inj hm hm' e
  group_le := fun hm => by
    rw [hg.users] at hm
    rw [hg.groups_length]
    exact h.group_le hm

theorem Wf.bumpGroup (h : Wf r) (k : Nat) : Wf (r.bumpGroup k) where
  slots := ⟨h.slots.maxSlot_pos, h.slots.maxSlot_le, h.slots.slots_length, h.slots.counter_lt,
    h.slots.memberId_eq, h.slots.slot_pos, h.slots.slot_taken, h.slots.slot_inj⟩
  owner := ⟨h.owner.owner_mem, h.owner.isOwner_iff⟩
  user_inj := h.user_inj
  group_le := fun hm => by
    rw [length_bumpGroup]
    exact h.group_le hm

/-! ## 5. A member is added -/

theorem addUser_member {v : RoomUser} (h : (r.addUser memberId u).users[m]? = some v) :
    (m = memberId ∧ v = u) ∨ (m ≠ memberId ∧ r.users[m]? = some v) := by
  have h : (r.users.insert memberId u)[m]? = some v := h
  rw [TreeMap.getElem?_insert] at h
  by_cases e : m = memberId
  · rw [if_pos e] at h
    exact Or.inl ⟨e, (Option.some.inj h).symm⟩
  · rw [if_neg e] at h
    exact Or.inr ⟨e, h⟩

theorem Wf.addUser (h : Wf r) (hg : Granted r groupId memberId r') (hid : u.memberId = memberId)
    (hgid : u.groupId = groupId) (hflag : u.isOwner = false) (hnew : u.userId ∉ r.getRoomUserIds) :
    Wf (r'.addUser memberId u) := by
  have h' := h.granted hg
  have htaken : r'.slots[slotOf memberId - 1]? = some true := by
    rw [hg.slots, List.getElem?_set_self (List.getElem?_eq_some_iff.mp hg.free).1]
  have hfresh : ∀ {m v}, r'.users[m]? = some v → slotOf m ≠ slotOf memberId := by
    intro m v hm
    rw [hg.users] at hm
    exact hg.fresh h.slots hm
  have hnew' : ∀ {m : UInt16} {v : RoomUser}, r'.users[m]? = some v → v.userId ≠ u.userId := by
    intro m v hm e
    rw [hg.users] at hm
    exact hnew (mem_getRoomUserIds.mpr ⟨m, v, hm, e⟩)
  refine ⟨⟨?_, ?_, ?_⟩, ?_⟩
  · constructor
    · exact h'.slots.maxSlot_pos
    · exact h'.slots.maxSlot_le
    · exact h'.slots.slots_length
    · exact h'.slots.counter_lt
    · intro m v hm
      rcases addUser_member hm with ⟨rfl, rfl⟩ | ⟨_, hm⟩
      · exact hid
      · exact h'.slots.memberId_eq hm
    · intro m v hm
      rcases addUser_member hm with ⟨rfl, rfl⟩ | ⟨_, hm⟩
      · exact hg.slot_pos
      · exact h'.slots.slot_pos hm
    · intro m v hm
      rcases addUser_member hm with ⟨rfl, rfl⟩ | ⟨_, hm⟩
      · exact htaken
      · exact h'.slots.slot_taken hm
    · intro m m' v v' hm hm' e
      rcases addUser_member hm with ⟨rfl, rfl⟩ | ⟨_, ho⟩ <;>
        rcases addUser_member hm' with ⟨rfl, rfl⟩ | ⟨_, ho'⟩
      · rfl
      · exact absurd e.symm (hfresh ho')
      · exact absurd e (hfresh ho)
      · exact h'.slots.slot_inj ho ho' e
  · intro m m' v v' hm hm' e
    rcases addUser_member hm with ⟨rfl, rfl⟩ | ⟨_, ho⟩ <;>
      rcases addUser_member hm' with ⟨rfl, rfl⟩ | ⟨_, ho'⟩
    · rfl
    · exact absurd e.symm (hnew' ho')
    · exact absurd e (hnew' ho)
    · exact h'.user_inj ho ho' e
  · intro m v hm
    rcases addUser_member hm with ⟨rfl, rfl⟩ | ⟨_, hm⟩
    · show v.groupId.toNat ≤ r'.groupConfig.length
      rw [hgid, hg.groups_length]
      exact hg.group_le
    · exact h'.group_le hm
  · have hown : r'.owner ≠ memberId := by
      intro e
      obtain ⟨v, hv⟩ := h'.owner.owner_mem
      rw [e] at hv
      exact hfresh hv rfl
    constructor
    · obtain ⟨v, hv⟩ := h'.owner.owner_mem
      refine ⟨v, ?_⟩
      show (r'.users.insert memberId u)[r'.owner]? = some v
      rw [TreeMap.getElem?_insert, if_neg hown]
      exact hv
    · intro m v hm
      rcases addUser_member hm with ⟨rfl, rfl⟩ | ⟨_, hm⟩
      · rw [hflag]
        exact ⟨fun h => (by cases h), fun h => absurd h.symm hown⟩
      · exact h'.owner.isOwner_iff hm

end Room

end Rpcn
