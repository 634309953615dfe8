/-
  File:      Rpcn/Room/Password.lean
  Subject:   PRIVATE SLOTS AND THE ROOM PASSWORD.

  `create_room` refuses private slots without a room password. Nothing refuses them later: the owner
  of a room without a password can set the slot mask and the groups' password flags, and no request
  can set the password.
-/
import Rpcn.Room.Stored

namespace Rpcn

open Lib Np2Structs Call
open Std (ExtTreeMap)

variable (n : Nat) {r r' : Room} {req : SetRoomDataInternalRequest}

namespace Room

/-! ## 1. What keeps the passwords -/

theorem PasswordKept.congr (h : r.PasswordKept) (hpw : r'.roomPassword = r.roomPassword)
    (hmask : r'.passwordSlotMask = r.passwordSlotMask)
    (hgroups : r'.groupConfig.map (·.withPassword) = r.groupConfig.map (·.withPassword)) :
    r'.PasswordKept := by
  constructor
  · intro hnil
    rw [hnil, List.map_nil] at hgroups
    rw [hpw, hmask]
    exact h.mask (List.map_eq_nil_iff.mp hgroups.symm)
  · intro g hg hw
    have hmem : true ∈ r.groupConfig.map (·.withPassword) := by
      rw [← hgroups]
      exact List.mem_map.mpr ⟨g, hg, hw⟩
    obtain ⟨g', hg', hw'⟩ := List.mem_map.mp hmem
    rw [hpw]
    exact h.groups g' hg' hw'

theorem PasswordKept.of_some (h : r.roomPassword ≠ none) : r.PasswordKept :=
  ⟨fun _ _ => h, fun _ _ _ => h⟩

theorem PasswordKept.released (h : r.PasswordKept) {mid : UInt16} {member : RoomUser}
    (hs : ReleaseStep r mid member false r') : r'.PasswordKept := by
  have hdrop : (r.dropMember mid member).groupConfig.map (·.withPassword) =
      r.groupConfig.map (·.withPassword) := by
    show (if member.groupId = 0 then r.groupConfig else _).map _ = _
    split
    · rfl
    · refine map_modify ?_ _ _
      exact fun _ => rfl
  cases hs with
  | stays ho => exact h.congr rfl rfl hdrop
  | handed s rest ho hs hfirst => exact h.congr rfl rfl hdrop

/-! ## 2. The owner's update -/

/-- **The update asks for no password**: without groups the mask it sets is empty, and no group it
    names is made private. -/
structure AsksNoPassword (r : Room) (req : SetRoomDataInternalRequest) : Prop where
  mask : r.groupConfig = [] → ∀ mask, req.passwordSlotMask = [mask] → mask = 0
  groups : ∀ gc ∈ req.passwordConfig, ∀ i, Uint8.getVerifiedOpt gc.groupId = .ok i →
    i.toNat ≤ r.groupConfig.length → gc.withPassword = false

structure Public (n : Nat) (r : Room) : Prop where
  password : r.roomPassword = none
  length : r.groupConfig.length = n
  kept : r.PasswordKept

abbrev KeepsPublic (n : Nat) (r r' : Room) : Prop := r.Public n → r'.Public n

theorem KeepsPublic.refl (r : Room) : KeepsPublic n r r := fun h => h

theorem KeepsPublic.trans (a b c : Room) (h : KeepsPublic n a b) (h' : KeepsPublic n b c) :
    KeepsPublic n a c := fun ha => h' (h ha)

theorem KeepsPublic.of_same {n : Nat} (hpw : r'.roomPassword = r.roomPassword)
    (hmask : r'.passwordSlotMask = r.passwordSlotMask) (hgroups : r'.groupConfig = r.groupConfig) :
    KeepsPublic n r r' := fun h =>
  ⟨hpw.trans h.password, by rw [hgroups]; exact h.length, h.kept.congr hpw hmask (by rw [hgroups])⟩

theorem setFlagAttr_public (req : SetRoomDataInternalRequest) :
    Keeps (KeepsPublic n) (setFlagAttr req) :=
  keeps_read_ite (fun _ _ => .of_same rfl rfl rfl) (fun r _ => .refl n r)

theorem setOwnerSuccession_public (req : SetRoomDataInternalRequest) :
    Keeps (KeepsPublic n) (setOwnerSuccession req) := by
  refine keeps_ite (keeps_pure (.refl n) _) ?_
  refine keeps_bind (.trans n) (keeps_ofExcept (.refl n) _) fun l => ?_
  exact keeps_read_ite (fun _ _ => .of_same rfl rfl rfl) (fun r _ => .refl n r)

theorem setPasswordSlotMask_public {n : Nat}
    (h : n = 0 → ∀ mask, req.passwordSlotMask = [mask] → mask = 0) :
    Keeps (KeepsPublic n) (setPasswordSlotMask req) := by
  refine keeps_bind (.trans n) (keeps_read (.refl n)) fun room => ?_
  split
  · rename_i mask hmask
    refine keeps_ite ?_ (keeps_pure (.refl n) _)
    refine keeps_bind (.trans n) (keeps_modify fun r hr => ?_) fun _ =>
      keeps_pure (.refl n) _
    refine ⟨hr.password, hr.length, fun hnil hne => ?_, hr.kept.groups⟩
    have hlen := hr.length
    rw [hnil] at hlen
    exact absurd (h hlen.symm mask hmask) hne
  · exact keeps_pure (.refl n) _

theorem setPasswordConfig_public {n : Nat} {newGroups : List UInt8} {gc : RoomGroupPasswordConfig}
    (h : ∀ i, Uint8.getVerifiedOpt gc.groupId = .ok i → i.toNat ≤ n → gc.withPassword = false) :
    Keeps (KeepsPublic n) (setPasswordConfig newGroups gc) := by
  intro r hr
  unfold setPasswordConfig
  cases hid : Uint8.getVerifiedOpt gc.groupId with
  | error e => exact hr
  | ok i =>
    rw [bind_ok (ofExcept_ok i r), read_bind_run]
    by_cases hlen : i.toNat > r.groupConfig.length
    · rw [if_pos hlen]
      exact hr
    rw [if_neg hlen]
    have hw : gc.withPassword = false := h i hid (hr.length ▸ Nat.le_of_not_lt hlen)
    cases hg : r.groupConfig[(i - 1).toNat]? with
    | none => exact hr
    | some g =>
      rw [bind_ok (unwrap_some g _ r)]
      -- nothing is private in the room, so the flag it has is the flag it would get
      have hsame : g.withPassword = gc.withPassword := by
        rw [hw]
        by_contra hg'
        exact hr.kept.groups g (List.mem_of_getElem? hg) (Bool.not_eq_false _ ▸ hg') hr.password
      rw [if_neg (not_not_intro hsame)]
      exact hr

theorem setInternalAsOwner_public (h : r.AsksNoPassword req) :
    Keeps (KeepsPublic r.groupConfig.length) (setInternalAsOwner req) := by
  refine keeps_bind (.trans _) (setFlagAttr_public _ req) fun _ => ?_
  refine keeps_bind (.trans _) (keeps_foldlM (.refl _) (.trans _) (fun _ gc hgc =>
    setPasswordConfig_public (h.groups gc hgc)) []) fun _ => ?_
  refine keeps_bind (.trans _) (setPasswordSlotMask_public fun hlen => ?_) fun _ => ?_
  · exact h.mask (List.length_eq_zero_iff.mp hlen)
  exact keeps_bind (.trans _) (setOwnerSuccession_public _ req) fun _ =>
    keeps_pure (.refl _) _

theorem PasswordKept.updated (h : r.PasswordKept) {userId : UserId}
    (hask : r.IsOwner userId → r.roomPassword = none → r.AsksNoPassword req) (now : UInt64) :
    (setInternal req userId now r).2.PasswordKept := by
  cases hm : r.memberOf userId with
  | none =>
    rw [setInternal_of_stranger hm]
    exact h
  | some mid =>
    by_cases hpw : r.roomPassword = none
    · have hpub : KeepsPublic r.groupConfig.length r (setInternal req userId now r).2 := by
        refine setInternal_rule (KeepsPublic.refl _) (KeepsPublic.trans _) ?_ hm fun howner => ?_
        · rintro a _ ⟨attrs, rfl⟩
          exact .of_same rfl rfl rfl
        · exact setInternalAsOwner_public (hask (by rw [IsOwner, hm, howner]) hpw)
      exact (hpub ⟨hpw, rfl, h⟩).kept
    · obtain ⟨_, _, _, _, _, e, -, -⟩ := r.setInternal_ownerOnly req userId now
      rw [e]
      exact .of_some hpw

end Room

/-! ## 3. Whole runs -/

/-- **The condition on a request** in the state it arrives in: the owner of a room without a
    password asks for none. -/
def PasswordGuard (m : RoomManager) : RoomOp → Prop
  | .setRoomdataInternal comId req userId _ => ∀ room,
      m.rooms.get? (comId, req.roomId) = some room → room.IsOwner userId →
      room.roomPassword = none → room.AsksNoPassword req
  | _ => True

theorem RoomManager.RoomStep.passwordKept {m : RoomManager} (hI : Inv m)
    (h : m.AllRooms Room.PasswordKept) {op : RoomOp} (hg : PasswordGuard m op)
    {key : ComId × UInt64} (hs : RoomStep m op key r') : r'.PasswordKept := by
  cases hs with
  | same _ _ _ hr => exact h _ _ hr
  | founded comId req cinfo serverId sig now _ hf hc => exact hc.password
  | admitted comId req cinfo sig now room hr hnew =>
    rcases room.letIn_cases (hI.wf hr) req cinfo sig now with hs | ⟨r₁, mid, u, hs, -, -, -, e⟩
    · obtain ⟨_, _, _, e, hgroups⟩ := hs
      rw [e]
      exact (h _ _ hr).congr rfl rfl hgroups
    · obtain ⟨_, _, _, rfl, hgroups⟩ := hs
      rw [e]
      exact (h _ _ hr).congr rfl rfl hgroups
  | released comId roomId userId random room _ mid member hr hm hu hs => exact (h _ _ hr).released hs
  | external comId req userId room hr =>
    obtain ⟨_, _, _, e⟩ := room.setExternal_externalOnly req userId
    rw [e]
    exact (h _ _ hr).congr rfl rfl rfl
  | internal comId req userId now room hr => exact (h _ _ hr).updated (hg room hr) now
  | member comId req userId now room hr =>
    rcases room.setMember_memberDataOnly with e | ⟨-, _, _, _, _, -, -, e⟩
    · rw [e]
      exact h _ _ hr
    · rw [e]
      exact (h _ _ hr).congr rfl rfl rfl

namespace Room

theorem PasswordKept.chooseGroup (h : r.PasswordKept)
    {joinLabel password : Option (Vector UInt8 8)} {hit : GroupHit} {g : RoomGroupConfig}
    (hc : r.chooseGroup joinLabel password = .ok hit) (hg : r.groupConfig[hit.groupId]? = some g)
    (hw : g.withPassword = true) : ∃ pw, r.roomPassword = some pw ∧ password = some pw := by
  obtain ⟨k, g', ha, rfl⟩ := chooseGroup_ok_iff.mp hc
  have hk : r.groupConfig[k]? = some g := by
    rw [← Nat.zero_add k]
    exact hg
  obtain rfl : g' = g := Option.some.inj (ha.group.symm.trans hk)
  obtain ⟨pw, hpw⟩ := Option.ne_none_iff_exists'.mp (h.groups g' (List.mem_of_getElem? hk) hw)
  exact ⟨pw, hpw, (ha.password hw).trans hpw⟩

theorem PasswordKept.takePrivate (h : r.PasswordKept) (hwf : r.Wf) (hnil : r.groupConfig = [])
    {slot : Nat} (hfree : r.FreeSlot true slot) (joinLabel : Option (Vector UInt8 8)) :
    ∃ pw slot', r.roomPassword = some pw ∧ r.FreeSlot true slot' ∧
      getASlot joinLabel (some pw) r = (.ok (0, r.slotMemberId slot'), r.markSlot slot') := by
  have hmask : r.passwordSlotMask ≠ 0 := by
    intro h0
    have hpriv := hfree.2.2.2
    rw [isSlotPrivate, h0] at hpriv
    simp at hpriv
  obtain ⟨pw, hpw⟩ := Option.ne_none_iff_exists'.mp (h.mask hnil hmask)
  have e : reqAnySlot (some pw) r = orElse (reqSlot true) (reqSlot false) r := by
    rw [reqAnySlot, read_bind_run]
    simp only [hpw, if_true]
  rcases reqSlot_cases r true with ⟨slot', hs, hrun⟩ | ⟨-, hno⟩ | ⟨-, hshort⟩
  · have hany : reqAnySlot (some pw) r = (.ok (r.slotMemberId slot'), r.markSlot slot') := by
      rw [e, orElse_run, hrun]
    refine ⟨pw, slot', hpw, hs, ?_⟩
    rw [getASlot_single joinLabel _ hnil, bind_ok hany]
    rfl
  · exact absurd hfree (hno slot)
  · rw [hwf.slots.slots_length] at hshort
    exact absurd hshort (Nat.lt_irrefl _)

end Room

/-- **Private slots imply a password**, in every state of every run in which no owner of a room
    without a password asks for one. So a private group is joined only with the password the room
    has, and a free private slot is taken by whoever presents it. -/
theorem private_slots_have_password {es : List (RoomOp × RoomOutcome)} {m : RoomManager}
    (h : (roomSystem.restrict PasswordGuard).Run es m) {key : ComId × UInt64} {r : Room}
    (hr : m.rooms.get? key = some r) :
    ((r.groupConfig = [] ∧ r.passwordSlotMask ≠ 0 ∨ ∃ g ∈ r.groupConfig, g.withPassword = true) →
      r.roomPassword.isSome) ∧
    (∀ joinLabel password hit g, r.chooseGroup joinLabel password = .ok hit →
      r.groupConfig[hit.groupId]? = some g → g.withPassword = true →
      ∃ pw, r.roomPassword = some pw ∧ password = some pw) ∧
    (∀ slot joinLabel, r.groupConfig = [] → r.FreeSlot true slot →
      ∃ pw slot', r.roomPassword = some pw ∧ r.FreeSlot true slot' ∧
        Room.getASlot joinLabel (some pw) r =
          (.ok (0, r.slotMemberId slot'), r.markSlot slot')) := by
  have hkept : r.PasswordKept :=
    stored_invariant (fun _ _ _ _ hI hP hG hs => hs.passwordKept hI hP hG) h key r hr
  have hwf : r.Wf := (inv_of_run h.unrestrict).wf hr
  refine ⟨?_, fun _ _ _ _ hc hg hw => hkept.chooseGroup hc hg hw,
    fun _ joinLabel hnil hfree => hkept.takePrivate hwf hnil hfree joinLabel⟩
  rintro (⟨hnil, hmask⟩ | ⟨g, hg, hw⟩)
  · exact Option.isSome_iff_ne_none.mpr (hkept.mask hnil hmask)
  · exact Option.isSome_iff_ne_none.mpr (hkept.groups g hg hw)

def maskRoom (userId : UserId) (mask : UInt64) : RoomOp :=
  .setRoomdataInternal zeroComId ⟨1, 0, 0, [], [], [mask], []⟩ userId 0

def openPrivateRoom : RoomOp :=
  .createRoom zeroComId
    { roomForTwo with roomPassword := List.replicate 8 7, passwordSlotMask := 62 }
    (player 1) 0 ClientSharedSignalingInfo.new 0

theorem maskRoom_guard :
    PasswordGuard (openPrivateRoom.call RoomManager.new).2 (maskRoom 1 63) := by
  have h : ((openPrivateRoom.call RoomManager.new).2.rooms.get? (zeroComId, 1)).map
      (·.roomPassword.isSome) = some true := by decide +kernel
  intro room hr _ hnone
  have hr : (openPrivateRoom.call RoomManager.new).2.rooms.get? (zeroComId, 1) = some room := hr
  rw [hr, Option.map_some, hnone] at h
  cases h

theorem private_slots_have_password_masked :
    ∃ es m r, (roomSystem.restrict PasswordGuard).Run es m ∧
      m.rooms.get? (zeroComId, 1) = some r ∧ r.passwordSlotMask = 63 ∧ r.roomPassword.isSome := by
  have hrun := (System.Run.start (M := roomSystem.restrict PasswordGuard)).step openPrivateRoom
    ⟨trivial, trivial⟩
  have hrun := hrun.step (maskRoom 1 63) ⟨trivial, maskRoom_guard⟩
  have h : (((maskRoom 1 63).call (openPrivateRoom.call RoomManager.new).2).2.rooms.get?
      (zeroComId, 1)).map (fun r => (r.groupConfig.length, r.passwordSlotMask)) =
        some (0, 63) := by decide +kernel
  obtain ⟨r, hr, hview⟩ := Option.map_eq_some_iff.mp h
  obtain ⟨hlen, hmask⟩ := Prod.mk.inj hview
  have hne : r.passwordSlotMask ≠ 0 := by
    rw [hmask]
    decide
  exact ⟨_, _, r, hrun, hr, hmask,
    (private_slots_have_password hrun hr).1 (Or.inl ⟨List.length_eq_zero_iff.mp hlen, hne⟩)⟩

/-- **The owner makes a slot private that nobody can take**: the room for two has no password, and
    no request can give it one. -/
theorem private_slot_without_password :
    ∃ es m r, roomSystem.Run es m ∧ m.rooms.get? (zeroComId, 1) = some r ∧
      r.groupConfig = [] ∧ r.passwordSlotMask ≠ 0 ∧ r.roomPassword = none := by
  obtain ⟨es, hrun⟩ := withRoomForTwo_run
  have h : (((maskRoom 1 62).call withRoomForTwo).2.rooms.get? (zeroComId, 1)).map (fun r =>
      (r.groupConfig.length, r.passwordSlotMask, r.roomPassword)) = some (0, 62, none) := by
    decide +kernel
  obtain ⟨r, hr, hview⟩ := Option.map_eq_some_iff.mp h
  simp only [Prod.mk.injEq] at hview
  obtain ⟨hlen, hmask, hpw⟩ := hview
  refine ⟨_, _, r, hrun.step (maskRoom 1 62) trivial, hr, List.length_eq_zero_iff.mp hlen, ?_, hpw⟩
  rw [hmask]
  decide

end Rpcn
