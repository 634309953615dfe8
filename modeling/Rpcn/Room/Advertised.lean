/-
  File:      Rpcn/Room/Advertised.lean
  Subject:   DO THE SLOTS A ROOM SHOWS AGREE WITH THE SLOTS IT HANDS OUT?

  A search shows how many slots of a room are public and private and how many of them are open. The
  encoder reads the mask at the bit `64 - slot`; `is_slot_private`, which decides about a joiner,
  takes the number `64 - slot` itself for a mask. And without a password the encoder does not look
  at the slots at all.
-/
import Rpcn.Room.SearchAll
import Rpcn.Room.Stored

namespace Rpcn

open Lib Np2Structs Outcome
open Std (ExtTreeMap)

/-! ## 1. Two readings of the mask -/

variable (p : Nat → Bool) (n : Nat) {room : Room} {slot : Nat}

namespace Room

/-- The encoder's reading: the bit `64 - slot` of the mask. -/
def advertisedPrivate (room : Room) (slot : Nat) : Bool :=
  room.passwordSlotMask.toNat.testBit (64 - slot)

/-- **The masks read alike**: each of the upper bits that stand for a slot is set exactly when its
    position has a bit in common with the mask. -/
def MaskAgrees (room : Room) : Prop :=
  ∀ k, 64 - room.maxSlot.toNat ≤ k → k < 64 →
    (room.passwordSlotMask.toNat.testBit k = true ↔ room.passwordSlotMask.toNat % 64 &&& k ≠ 0)

theorem isSlotPrivate_iff (room : Room) (h1 : 1 ≤ slot) (h64 : slot ≤ 64) :
    room.isSlotPrivate slot = true ↔ room.passwordSlotMask.toNat % 64 &&& (64 - slot) ≠ 0 := by
  have e : 64 - slot.toUInt64 = (64 - slot).toUInt64 := (UInt64.ofNat_sub h64).symm
  rw [isSlotPrivate, bne_iff_ne, e, Bits.and_position_ne_zero _ (by omega)]

theorem agree_iff_maskAgrees (room : Room) (hmax : room.maxSlot.toNat ≤ 64) :
    (∀ slot, 1 ≤ slot → slot ≤ room.maxSlot.toNat →
      (room.isSlotPrivate slot = true ↔ room.advertisedPrivate slot = true)) ↔
    room.MaskAgrees := by
  constructor
  · intro h k hk hk64
    have hslot := h (64 - k) (by omega) (by omega)
    rw [room.isSlotPrivate_iff (by omega) (by omega), advertisedPrivate,
      show 64 - (64 - k) = k by omega] at hslot
    exact hslot.symm
  · intro h slot h1 hle
    rw [room.isSlotPrivate_iff h1 (by omega)]
    exact (h (64 - slot) (by omega) (by omega)).symm

/-! ## 2. The counters -/

def freeAt (room : Room) (slot : Nat) : Bool := room.slots[slot - 1]? = some false

/-- How many of the slots `1..=n` have a property. -/
def countSlotsOf (p : Nat → Bool) (n : Nat) : Nat := (List.range n).countP fun i => p (i + 1)

theorem countSlotsOf_succ :
    countSlotsOf p (n + 1) = countSlotsOf p n + if p (n + 1) then 1 else 0 := by
  rw [countSlotsOf, List.range_succ, List.countP_append, List.countP_singleton]
  rfl

theorem countSlotsOf_le : countSlotsOf p n ≤ n := by
  have h := List.countP_le_length (p := fun i => p (i + 1)) (l := List.range n)
  rw [List.length_range] at h
  exact h

theorem countSlotsOf_split (q : Nat → Bool) (n : Nat) :
    countSlotsOf (fun s => p s && !q s) n + countSlotsOf (fun s => p s && q s) n =
      countSlotsOf p n := by
  induction n with
  | zero => rfl
  | succ n ih =>
    rw [countSlotsOf_succ, countSlotsOf_succ, countSlotsOf_succ, ← ih]
    cases p (n + 1) <;> cases q (n + 1) <;> simp <;> omega

theorem countSlotsOf_free (room : Room) :
    countSlotsOf room.freeAt room.slots.length = room.slots.count false := by
  have h : (List.range room.slots.length).map (room.slots[·]?) = room.slots.map some := by
    refine List.ext_getElem? fun i => ?_
    by_cases hi : i < room.slots.length
    · simp [hi]
    · simp [hi]
  calc countSlotsOf room.freeAt room.slots.length
      = ((List.range room.slots.length).map (room.slots[·]?)).countP (· = some false) := by
        rw [List.countP_map]
        rfl
    _ = room.slots.count false := by
        rw [h, List.countP_map, List.count]
        refine List.countP_congr fun b _ => ?_
        simp

/-- The three counters after the slots `1..=n`. -/
def slotCounts (room : Room) (n : Nat) : SlotNums where
  maxPrivateSlots := (countSlotsOf room.advertisedPrivate n).toUInt16
  openPublicSlots :=
    (countSlotsOf (fun s => room.freeAt s && !room.advertisedPrivate s) n).toUInt16
  openPrivateSlots :=
    (countSlotsOf (fun s => room.freeAt s && room.advertisedPrivate s) n).toUInt16

theorem countSlot_of_slot (room : Room) (n : SlotNums) {i : Nat} {taken : Bool}
    (hi : i < 64) (ht : room.slots[i]? = some taken) :
    room.countSlot n i = .ok (if room.advertisedPrivate (i + 1) then
      { n with
        maxPrivateSlots := n.maxPrivateSlots + 1
        openPrivateSlots := if taken then n.openPrivateSlots else n.openPrivateSlots + 1 }
      else { n with
        openPublicSlots := if taken then n.openPublicSlots else n.openPublicSlots + 1 }) := by
  have e : 63 - i.toUInt64 = (63 - i).toUInt64 := (UInt64.ofNat_sub (show i ≤ 63 by omega)).symm
  have hbit : room.passwordSlotMask &&& ((1 : UInt64) <<< (63 - i.toUInt64)) ≠ 0 ↔
      room.advertisedPrivate (i + 1) = true := by
    rw [e, Bits.and_shiftLeft_ne_zero _ (by omega), advertisedPrivate,
      show 64 - (i + 1) = 63 - i by omega]
  rw [countSlot, ht, unwrap_some, ok_bind]
  by_cases hp : room.advertisedPrivate (i + 1) = true
  · rw [if_pos (hbit.mpr hp), if_pos hp]
    rfl
  · rw [if_neg fun h => hp (hbit.mp h), if_neg hp]
    rfl

theorem foldlM_countSlot (room : Room) {n : Nat} (hn : n ≤ 64) (hlen : n ≤ room.slots.length) :
    (List.range n).foldlM room.countSlot ⟨0, 0, 0⟩ = .ok (room.slotCounts n) := by
  induction n with
  | zero => rfl
  | succ n ih =>
    obtain ⟨taken, ht⟩ : ∃ taken, room.slots[n]? = some taken :=
      ⟨_, List.getElem?_eq_getElem (by omega)⟩
    have hfree : room.freeAt (n + 1) = !taken := by
      rw [freeAt, Nat.add_sub_cancel, ht]
      cases taken <;> rfl
    rw [List.range_succ, List.foldlM_append, ih (by omega) (by omega), ok_bind,
      List.foldlM_cons, room.countSlot_of_slot _ (by omega) ht, ok_bind]
    show ok _ = _
    simp only [slotCounts, countSlotsOf_succ, hfree, ok.injEq]
    cases taken <;> cases room.advertisedPrivate (n + 1) <;> simp [Nat.toUInt16]

theorem slotNums_of_password (hpw : room.roomPassword.isSome) (hmax : room.maxSlot.toNat ≤ 64)
    (hlen : room.slots.length = room.maxSlot.toNat) :
    room.slotNums = .ok (room.slotCounts room.maxSlot.toNat) := by
  rw [slotNums, if_pos hpw, room.foldlM_countSlot hmax (by omega)]

theorem slotNums_of_public (hpw : ¬ room.roomPassword.isSome) :
    room.slotNums = .ok ⟨0, room.maxSlot, 0⟩ := by
  rw [slotNums, if_neg hpw]
  rfl

/-! ## 3. Joining without the password -/

structure OpenPublic (room : Room) (slot : Nat) : Prop where
  one_le : 1 ≤ slot
  le_max : slot ≤ room.maxSlot.toNat
  free : room.freeAt slot = true
  shown : room.advertisedPrivate slot = false

theorem MaskAgrees.freeSlot_iff (h : room.MaskAgrees) (hmax : room.maxSlot.toNat ≤ 64) :
    room.FreeSlot false slot ↔ room.OpenPublic slot := by
  have hagree := (room.agree_iff_maskAgrees hmax).mpr h
  constructor
  · intro hs
    obtain ⟨h1, hle, hfree, hpub⟩ := hs
    refine ⟨h1, hle, decide_eq_true hfree, ?_⟩
    rw [← Bool.not_eq_true, ← hagree slot h1 hle, ← hpub]
    exact Bool.false_ne_true
  · intro hs
    refine ⟨hs.one_le, hs.le_max, of_decide_eq_true hs.free, ?_⟩
    have hnot : ¬ room.isSlotPrivate slot = true := by
      rw [hagree slot hs.one_le hs.le_max, hs.shown]
      exact Bool.false_ne_true
    exact (Bool.not_eq_true _ ▸ hnot).symm

theorem MaskAgrees.slot_of_ok (h : room.MaskAgrees) (hmax : room.maxSlot.toNat ≤ 64)
    (hgroups : room.groupConfig = []) {joinLabel : Option (Vector UInt8 8)} {x : UInt8 × UInt16}
    {r' : Room} (hs : SlotStep room joinLabel none (.ok x) r') :
    ∃ slot, room.OpenPublic slot ∧ x = (0, room.slotMemberId slot) ∧ r' = room.markSlot slot := by
  cases hs with
  | group k g slot ha hin hfree =>
    have hg := ha.group
    rw [hgroups] at hg
    cases hg
  | single slot hg hp hs =>
    rcases hs with hs | ⟨hne, _⟩
    · exact ⟨slot, (h.freeSlot_iff hmax).mp hs, rfl, rfl⟩
    · exact absurd rfl hne

theorem MaskAgrees.hasSlot (h : room.MaskAgrees) (hmax : room.maxSlot.toNat ≤ 64)
    (hgroups : room.groupConfig = []) (hs : room.OpenPublic slot)
    (joinLabel : Option (Vector UInt8 8)) : room.HasSlot joinLabel none :=
  Or.inl ⟨hgroups, Or.inl rfl, slot, Or.inl ((h.freeSlot_iff hmax).mpr hs)⟩

theorem letIn_of_grants (hlen : room.slots.length = room.maxSlot.toNat) {req : JoinRoomRequest}
    (hg : room.Grants req) (hdata : MemberDataOk req) (cinfo : ClientInfo)
    (sig : ClientSharedSignalingInfo) (now : UInt64) :
    ∃ x, (letIn req cinfo sig now room).1 = .ok x := by
  obtain ⟨⟨groupId, memberId⟩, hx⟩ := getASlot_of_hasSlot hlen hg.slot
  rcases hrun : getASlot (eightBytes req.joinRoomGroupLabel) (eightBytes req.roomPassword) room with
    ⟨o, r'⟩
  rw [hrun] at hx
  obtain rfl : o = .ok (groupId, memberId) := hx
  obtain ⟨u, hu⟩ := (fromJoinRoomRequest_ok_iff req sig now).mpr hdata
  refine ⟨(memberId, room.getRoomUserIds), ?_⟩
  rw [letIn_of_knocks hg.knocks, letInChecked, Call.bind_ok hrun]
  simp only [hu]
  rfl

end Room

def openMaskedRoom (mask : UInt64) : RoomOp :=
  .createRoom zeroComId
    { roomForTwo with roomPassword := List.replicate 8 7, passwordSlotMask := mask }
    (player 1) 0 ClientSharedSignalingInfo.new 0

def withMaskedRoom (mask : UInt64) : RoomManager := ((openMaskedRoom mask).call RoomManager.new).2

theorem withMaskedRoom_run (mask : UInt64) : ∃ es, roomSystem.Run es (withMaskedRoom mask) :=
  ⟨_, System.Run.step (openMaskedRoom mask) System.Run.start trivial⟩

def Np2Structs.Uint16.shown : Option Uint16 → Nat
  | none => 0
  | some v => v.value.toNat

theorem Np2Structs.Uint16.shown_newFromValue (v : UInt16) :
    Uint16.shown (Uint16.newFromValue v) = v.toNat := rfl

namespace Room

theorem Wf.ownerInfo_ok (h : room.Wf) (searchOption : Int32) :
    ∃ info, room.ownerInfo searchOption = .ok info := by
  obtain ⟨owner, ho⟩ := h.owner.owner_mem
  unfold ownerInfo
  split
  · rw [ho]
    exact ⟨_, rfl⟩
  · exact ⟨none, rfl⟩

theorem Wf.slotNums_ok (h : room.Wf) : ∃ n, room.slotNums = .ok n := by
  by_cases hpw : room.roomPassword.isSome
  · exact ⟨_, slotNums_of_password hpw h.slots.maxSlot_le h.slots.slots_length⟩
  · exact ⟨_, slotNums_of_public hpw⟩

theorem Wf.toRoomDataExternal_ok (h : room.Wf) {n : SlotNums} (hn : room.slotNums = .ok n)
    (searchOption : Int32) (incAttrs : List UInt16) :
    ∃ rd, room.toRoomDataExternal searchOption incAttrs = .ok rd ∧
      rd.publicSlotNum = Uint16.newFromValue (room.maxSlot - n.maxPrivateSlots) ∧
      rd.privateSlotNum = Uint16.newFromValue n.maxPrivateSlots ∧
      rd.openPublicSlotNum = Uint16.newFromValue n.openPublicSlots ∧
      rd.openPrivateSlotNum = Uint16.newFromValue n.openPrivateSlots := by
  obtain ⟨info, hinfo⟩ := h.ownerInfo_ok searchOption
  unfold toRoomDataExternal
  rw [hinfo, ok_bind, hn, ok_bind]
  exact ⟨_, rfl, rfl, rfl, rfl, rfl⟩

theorem toNat_countSlotsOf {n : Nat} (hn : n ≤ 64) :
    (countSlotsOf p n).toUInt16.toNat = countSlotsOf p n := by
  have h := countSlotsOf_le p n
  exact UInt16.toNat_ofNat_of_lt' (Nat.lt_of_le_of_lt (h.trans hn) (by decide))

theorem Wf.count_free_lt (h : room.Wf) : room.slots.count false < room.maxSlot.toNat := by
  obtain ⟨owner, ho⟩ := h.owner.owner_mem
  have htaken := h.slots.slot_taken ho
  have hpos := List.count_pos_iff.mpr (List.mem_of_getElem? htaken)
  have hsum := List.count_true_add_count_false room.slots
  rw [h.slots.slots_length] at hsum
  omega

end Room

/-- **Public and private slots add up to the slots; the open ones to the free slots exactly in rooms
    with a password.** For every stored room of every run, in both encodings. -/
theorem advertised_slots_iff {es : List (RoomOp × RoomOutcome)} {m : RoomManager}
    (h : roomSystem.Run es m) {key : ComId × UInt64} {room : Room}
    (hr : m.rooms.get? key = some room) (searchOption : Int32) (incAttrs : List UInt16) :
    ∃ rd rdAll, room.toRoomDataExternal searchOption incAttrs = .ok rd ∧
      room.toRoomDataExternalAll searchOption incAttrs = .ok rdAll ∧
      ∀ d ∈ [rd, rdAll.toRoomDataExternal],
        Uint16.shown d.publicSlotNum + Uint16.shown d.privateSlotNum = room.maxSlot.toNat ∧
        (Uint16.shown d.openPublicSlotNum + Uint16.shown d.openPrivateSlotNum =
          room.slots.count false ↔ room.roomPassword.isSome) := by
  have hwf := (inv_of_run h).wf hr
  have hmax := hwf.slots.maxSlot_le
  obtain ⟨n, hn⟩ := hwf.slotNums_ok
  obtain ⟨rd, hrd, hpub, hpriv, hopub, hopriv⟩ :=
    hwf.toRoomDataExternal_ok hn searchOption incAttrs
  have hall := room.toRoomDataExternalAll_eq searchOption incAttrs
  rw [hrd] at hall
  refine ⟨rd, _, hrd, hall, ?_⟩
  have hrd' : Uint16.shown rd.publicSlotNum + Uint16.shown rd.privateSlotNum = room.maxSlot.toNat ∧
      (Uint16.shown rd.openPublicSlotNum + Uint16.shown rd.openPrivateSlotNum =
        room.slots.count false ↔ room.roomPassword.isSome) := by
    rw [hpub, hpriv, hopub, hopriv]
    simp only [Uint16.shown_newFromValue]
    by_cases hpw : room.roomPassword.isSome
    · rw [Room.slotNums_of_password hpw hmax hwf.slots.slots_length] at hn
      cases hn
      have hle := Room.countSlotsOf_le room.advertisedPrivate room.maxSlot.toNat
      have hsplit := Room.countSlotsOf_split room.freeAt room.advertisedPrivate room.maxSlot.toNat
      have hfree := room.countSlotsOf_free
      rw [hwf.slots.slots_length] at hfree
      simp only [Room.slotCounts, Room.toNat_countSlotsOf _ hmax]
      rw [UInt16.toNat_sub_of_le _ _ (UInt16.le_iff_toNat_le.mpr (by
        rw [Room.toNat_countSlotsOf _ hmax]; exact hle)), Room.toNat_countSlotsOf _ hmax]
      exact ⟨by omega, fun _ => hpw, fun _ => hsplit.trans hfree⟩
    · -- without a password the counters do not look at the slots
      rw [Room.slotNums_of_public hpw] at hn
      cases hn
      have hlt := hwf.count_free_lt
      refine ⟨by simp, fun e => ?_, fun e => absurd e hpw⟩
      have e : room.maxSlot.toNat + 0 = room.slots.count false := e
      omega
  intro d hd
  rcases List.mem_cons.mp hd with rfl | hd
  · exact hrd'
  · obtain rfl := List.mem_singleton.mp hd
    exact hrd'

theorem advertised_slots_iff_masked :
    ∃ es m room rd, roomSystem.Run es m ∧ m.rooms.get? (zeroComId, 1) = some room ∧
      room.toRoomDataExternal 0 [] = .ok rd ∧
      Uint16.shown rd.openPublicSlotNum + Uint16.shown rd.openPrivateSlotNum =
        room.slots.count false := by
  obtain ⟨es, hrun⟩ := withMaskedRoom_run 62
  have h : ((withMaskedRoom 62).rooms.get? (zeroComId, 1)).any (·.roomPassword.isSome) = true := by
    decide +kernel
  obtain ⟨room, hr, hpw⟩ := (Option.any_eq_true _ _).mp h
  obtain ⟨rd, _, hrd, -, hshown⟩ := advertised_slots_iff hrun hr 0 []
  exact ⟨es, _, room, rd, hrun, hr, hrd, (hshown rd List.mem_cons_self).2.mpr hpw⟩

/-- **A room without a password shows its owner's slot as open.** -/
theorem advertised_slots_occupied :
    ∃ es room rd, roomSystem.Run es withRoomForTwo ∧
      withRoomForTwo.rooms.get? (zeroComId, 1) = some room ∧
      room.toRoomDataExternal 0 [] = .ok rd ∧
      Uint16.shown rd.openPublicSlotNum + Uint16.shown rd.openPrivateSlotNum = 2 ∧
      room.slots.count false = 1 := by
  obtain ⟨es, hrun⟩ := withRoomForTwo_run
  have h : (withRoomForTwo.rooms.get? (zeroComId, 1)).any (fun r =>
      r.roomPassword = none ∧ r.maxSlot = 2 ∧ r.slots = [true, false]) = true := by decide +kernel
  obtain ⟨room, hr, hview⟩ := (Option.any_eq_true _ _).mp h
  obtain ⟨hpw, hmax, hslots⟩ := of_decide_eq_true hview
  have hwf := (inv_of_run hrun).wf hr
  have hpublic : ¬ room.roomPassword.isSome := by
    rw [hpw]
    decide
  have hn := Room.slotNums_of_public hpublic
  obtain ⟨rd, hrd, -, -, hopub, hopriv⟩ := hwf.toRoomDataExternal_ok hn 0 []
  refine ⟨es, room, rd, hrun, hr, hrd, ?_, ?_⟩
  · rw [hopub, hopriv, hmax]
    rfl
  · rw [hslots]
    rfl

end Rpcn
