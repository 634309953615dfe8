/-
  File:      Rpcn/Room/SetterSpec.lean
  Subject:   WHAT THE THREE SETTERS OF A ROOM CAN DO TO IT.
-/
import Rpcn.Lib.Bits
import Rpcn.Room.Invariant

namespace Rpcn

open Lib Np2Structs
open Std (ExtTreeMap)

variable (a b c : Room) (req : SetRoomDataInternalRequest) {r r' : Room} {userId : UserId}
  {mid target : UInt16} {R : Room → Room → Prop} {α β : Type} {newGroups : List UInt8}
  {ids : List Uint16} {u : RoomUser}

namespace Room

def IsOwner (r : Room) (userId : UserId) : Prop := r.memberOf userId = some r.owner

instance (r : Room) (userId : UserId) : Decidable (r.IsOwner userId) :=
  inferInstanceAs (Decidable (r.memberOf userId = some r.owner))

theorem getMemberId_some (h : r.memberOf userId = some mid) : r.getMemberId userId = .ok mid := by
  rw [getMemberId, h]
  rfl

theorem getMemberId_none (h : r.memberOf userId = none) :
    r.getMemberId userId = .error .notFound := by
  rw [getMemberId, h]
  rfl

/-! ## 1. What may differ -/

def ExternalOnly (r r' : Room) : Prop :=
  ∃ binAttrExternal searchBinAttr searchIntAttr,
    r' = { r with binAttrExternal, searchBinAttr, searchIntAttr }

def InternalAttrsOnly (r r' : Room) : Prop := ∃ binAttrInternal, r' = { r with binAttrInternal }

def groupSans (g : RoomGroupConfig) : RoomGroupConfig := { g with withPassword := false }

/-- **What an owner may change**: the flags but not `FULL`, the password flags of the groups, the
    slot mask, the succession list and the internal attributes. -/
def OwnerOnly (r r' : Room) : Prop :=
  ∃ flagAttr groupConfig passwordSlotMask ownerSuccession binAttrInternal,
    r' = { r with flagAttr, groupConfig, passwordSlotMask, ownerSuccession, binAttrInternal } ∧
    flagAttr &&& roomFlagAttrFull = r.flagAttr &&& roomFlagAttrFull ∧
    groupConfig.map groupSans = r.groupConfig.map groupSans

/-- **What may change in a member's data**: the team and the attribute of one member, who is the
    user unless the user owns the room. -/
def MemberDataOnly (userId : UserId) (r r' : Room) : Prop :=
  ∃ (target : UInt16) (u : RoomUser) (teamId : UInt8) (memberAttr : RoomMemberBinAttr),
    r.users[target]? = some u ∧ (u.userId = userId ∨ r.IsOwner userId) ∧
    r' = r.putUser target { u with teamId, memberAttr }

theorem ExternalOnly.refl (r : Room) : ExternalOnly r r := ⟨_, _, _, rfl⟩

theorem ExternalOnly.trans (h : ExternalOnly a b) (h' : ExternalOnly b c) : ExternalOnly a c := by
  obtain ⟨_, _, _, rfl⟩ := h
  obtain ⟨_, _, _, rfl⟩ := h'
  exact ⟨_, _, _, rfl⟩

theorem InternalAttrsOnly.refl (r : Room) : InternalAttrsOnly r r := ⟨_, rfl⟩

theorem InternalAttrsOnly.trans (h : InternalAttrsOnly a b) (h' : InternalAttrsOnly b c) :
    InternalAttrsOnly a c := by
  obtain ⟨_, rfl⟩ := h
  obtain ⟨_, rfl⟩ := h'
  exact ⟨_, rfl⟩

theorem InternalAttrsOnly.ownerOnly (h : InternalAttrsOnly r r') : OwnerOnly r r' := by
  obtain ⟨attrs, rfl⟩ := h
  exact ⟨_, _, _, _, attrs, rfl, rfl, rfl⟩

theorem OwnerOnly.refl (r : Room) : OwnerOnly r r := ⟨_, _, _, _, _, rfl, rfl, rfl⟩

theorem OwnerOnly.trans (h : OwnerOnly a b) (h' : OwnerOnly b c) : OwnerOnly a c := by
  obtain ⟨_, _, _, _, _, rfl, hfull, hgroups⟩ := h
  obtain ⟨_, _, _, _, _, rfl, hfull', hgroups'⟩ := h'
  exact ⟨_, _, _, _, _, rfl, hfull'.trans hfull, hgroups'.trans hgroups⟩

/-! ## 2. `set_roomdata_external` -/

theorem keeps_storeAll (hR : ∀ r, R r r) (hT : ∀ a b c, R a b → R b c → R a c) {xs : List β}
    {conv : β → Except ErrorType α} {store : α → Room → Room} (h : ∀ a r, R r (store a r)) :
    Call.Keeps R (xs.forM fun p => do
      let a ← (Call.ofExcept (conv p) : RoomCall α)
      Call.modify (store a)) :=
  Call.keeps_forM hR hT fun _ _ =>
    Call.keeps_bind hT (Call.keeps_ofExcept hR _) fun a => Call.keeps_modify (h a)

theorem setExternal_of_not_owner (h : ¬ r.IsOwner userId) (req : SetRoomDataExternalRequest) :
    ∃ e, setExternal req userId r = (.err e, r) := by
  unfold setExternal
  rw [Call.bind_ok (Call.read_run r)]
  cases hm : r.memberOf userId with
  | none =>
    rw [getMemberId_none hm]
    exact ⟨_, rfl⟩
  | some mid =>
    have ho : r.owner ≠ mid := fun e => h (by rw [IsOwner, hm, e])
    rw [getMemberId_some hm, Call.bind_ok (Call.ofExcept_ok mid r), if_pos ho]
    exact ⟨_, rfl⟩

theorem setExternal_externalOnly (req : SetRoomDataExternalRequest) (userId : UserId) :
    Call.Keeps ExternalOnly (setExternal req userId) := by
  refine Call.keeps_bind ExternalOnly.trans (Call.keeps_read ExternalOnly.refl) fun room => ?_
  refine Call.keeps_bind ExternalOnly.trans (Call.keeps_ofExcept ExternalOnly.refl _) fun _ => ?_
  refine Call.keeps_ite (Call.keeps_fail ExternalOnly.refl _) ?_
  refine Call.keeps_bind ExternalOnly.trans
    (keeps_storeAll ExternalOnly.refl ExternalOnly.trans fun a r => ?_) fun _ => ?_
  · exact ⟨_, _, _, rfl⟩
  refine Call.keeps_bind ExternalOnly.trans
    (keeps_storeAll ExternalOnly.refl ExternalOnly.trans fun a r => ?_) fun _ => ?_
  · show ExternalOnly r (if _ then _ else _)
    split
    · exact .refl r
    · exact ⟨_, _, _, rfl⟩
  · exact keeps_storeAll ExternalOnly.refl ExternalOnly.trans fun a r => ⟨_, _, _, rfl⟩

/-! ## 3. `set_roomdata_internal` -/

theorem map_modify {p : α → β} {f : α → α} (h : ∀ a, p (f a) = p a) (l : List α) (i : Nat) :
    (l.modify i f).map p = l.map p := by
  refine List.ext_getElem? fun j => ?_
  rw [List.getElem?_map, List.getElem?_map, List.getElem?_modify, Option.map_eq_map,
    Option.map_map]
  refine congrArg (fun f => Option.map f l[j]?) (funext fun a => ?_)
  show p (if i = j then f a else a) = p a
  split
  · exact h a
  · rfl

theorem setFlagAttr_ownerOnly : Call.Keeps OwnerOnly (setFlagAttr req) :=
  Call.keeps_read_ite
    (fun _ _ => ⟨_, _, _, _, _, rfl, Bits.filtered_and_self _ _ _ _, rfl⟩)
    (fun r _ => .refl r)

theorem setPasswordConfig_ownerOnly (newGroups : List UInt8) (gc : RoomGroupPasswordConfig) :
    Call.Keeps OwnerOnly (setPasswordConfig newGroups gc) := by
  refine Call.keeps_bind OwnerOnly.trans (Call.keeps_ofExcept OwnerOnly.refl _) fun groupId => ?_
  refine Call.keeps_bind OwnerOnly.trans (Call.keeps_read OwnerOnly.refl) fun room => ?_
  refine Call.keeps_ite (Call.keeps_pure OwnerOnly.refl _) ?_
  refine Call.keeps_bind OwnerOnly.trans (Call.keeps_unwrap OwnerOnly.refl _ _) fun g => ?_
  refine Call.keeps_ite ?_ (Call.keeps_pure OwnerOnly.refl _)
  refine Call.keeps_bind OwnerOnly.trans (Call.keeps_modify fun r => ?_) fun _ =>
    Call.keeps_pure OwnerOnly.refl _
  refine ⟨_, _, _, _, _, rfl, rfl, map_modify ?_ _ _⟩
  exact fun _ => rfl

theorem setPasswordSlotMask_ownerOnly : Call.Keeps OwnerOnly (setPasswordSlotMask req) := by
  refine Call.keeps_bind OwnerOnly.trans (Call.keeps_read OwnerOnly.refl) fun room => ?_
  split
  · refine Call.keeps_ite ?_ (Call.keeps_pure OwnerOnly.refl _)
    refine Call.keeps_bind OwnerOnly.trans (Call.keeps_modify fun r => ?_) fun _ =>
      Call.keeps_pure OwnerOnly.refl _
    exact ⟨_, _, _, _, _, rfl, rfl, rfl⟩
  · exact Call.keeps_pure OwnerOnly.refl _

theorem setOwnerSuccession_ownerOnly : Call.Keeps OwnerOnly (setOwnerSuccession req) := by
  refine Call.keeps_ite (Call.keeps_pure OwnerOnly.refl _) ?_
  refine Call.keeps_bind OwnerOnly.trans (Call.keeps_ofExcept OwnerOnly.refl _) fun l => ?_
  refine Call.keeps_bind OwnerOnly.trans (Call.keeps_read OwnerOnly.refl) fun room => ?_
  refine Call.keeps_ite ?_ (Call.keeps_pure OwnerOnly.refl _)
  refine Call.keeps_bind OwnerOnly.trans (Call.keeps_modify fun r => ?_) fun _ =>
    Call.keeps_pure OwnerOnly.refl _
  exact ⟨_, _, _, _, _, rfl, rfl, rfl⟩

theorem setInternalAsOwner_ownerOnly : Call.Keeps OwnerOnly (setInternalAsOwner req) := by
  refine Call.keeps_bind OwnerOnly.trans (setFlagAttr_ownerOnly req) fun _ => ?_
  refine Call.keeps_bind OwnerOnly.trans (Call.keeps_foldlM OwnerOnly.refl OwnerOnly.trans
    (fun ids gc _ => setPasswordConfig_ownerOnly ids gc) []) fun _ => ?_
  refine Call.keeps_bind OwnerOnly.trans (setPasswordSlotMask_ownerOnly req) fun _ => ?_
  refine Call.keeps_bind OwnerOnly.trans (setOwnerSuccession_ownerOnly req) fun _ => ?_
  exact Call.keeps_pure OwnerOnly.refl _

theorem setBinAttrInternal_attrsOnly (memberId : UInt16) (now : UInt64) (ids : List Uint16)
    (p : BinAttr) : Call.Keeps InternalAttrsOnly (setBinAttrInternal memberId now ids p) := by
  refine Call.keeps_bind InternalAttrsOnly.trans (Call.keeps_ofExcept InternalAttrsOnly.refl _)
    fun a => ?_
  refine Call.keeps_ite (Call.keeps_pure InternalAttrsOnly.refl _) ?_
  refine Call.keeps_bind InternalAttrsOnly.trans (Call.keeps_modify fun r => ⟨_, rfl⟩) fun _ => ?_
  exact Call.keeps_pure InternalAttrsOnly.refl _

theorem setInternal_of_stranger (h : r.memberOf userId = none) (req : SetRoomDataInternalRequest)
    (now : UInt64) : setInternal req userId now r = (.err .notFound, r) := by
  unfold setInternal
  rw [Call.bind_ok (Call.read_run r), getMemberId_none h]
  rfl

theorem setInternal_rule (hR : ∀ r, R r r) (hT : ∀ a b c, R a b → R b c → R a c)
    (hattrs : ∀ r r', InternalAttrsOnly r r' → R r r') {req : SetRoomDataInternalRequest}
    {now : UInt64} (hm : r.memberOf userId = some mid)
    (howner : r.owner = mid → Call.Keeps R (setInternalAsOwner req)) :
    R r (setInternal req userId now r).2 := by
  have hpart : Call.Keeps R
      (if r.owner = mid then setInternalAsOwner req else pure (false, []) : RoomCall _) := by
    by_cases ho : r.owner = mid
    · rw [if_pos ho]
      exact howner ho
    · rw [if_neg ho]
      exact Call.keeps_pure hR _
  unfold setInternal
  rw [Call.bind_ok (Call.read_run r), getMemberId_some hm, Call.bind_ok (Call.ofExcept_ok mid r)]
  refine Call.keeps_bind hT hpart (fun _ => ?_) r
  refine Call.keeps_bind hT (Call.keeps_foldlM hR hT ?_ []) fun _ => ?_
  · exact fun ids p _ s => hattrs _ _ (setBinAttrInternal_attrsOnly mid now ids p s)
  refine Call.keeps_ite ?_ (Call.keeps_pure hR _)
  refine Call.keeps_bind hT (Call.keeps_read hR) fun _ => ?_
  exact Call.keeps_bind hT (Call.keeps_unwrap hR _ _) fun _ => Call.keeps_pure hR _

theorem setInternal_ownerOnly (userId : UserId) (now : UInt64) :
    Call.Keeps OwnerOnly (setInternal req userId now) := by
  intro r
  cases hm : r.memberOf userId with
  | none =>
    rw [setInternal_of_stranger hm]
    exact .refl r
  | some mid =>
    exact setInternal_rule OwnerOnly.refl OwnerOnly.trans
      (fun _ _ => InternalAttrsOnly.ownerOnly) hm fun _ => setInternalAsOwner_ownerOnly req

/-! ### Without a notification -/

theorem setFlagAttr_false {req : SetRoomDataInternalRequest}
    (h : setFlagAttr req r = (.ok false, r')) : r' = r := by
  rw [setFlagAttr, Call.read_bind_run] at h
  split at h
  · cases h
  · cases h
    rfl

theorem setPasswordSlotMask_false {req : SetRoomDataInternalRequest}
    (h : setPasswordSlotMask req r = (.ok false, r')) : r' = r := by
  rw [setPasswordSlotMask, Call.read_bind_run] at h
  rcases hmask : req.passwordSlotMask with _ | ⟨mask, _ | ⟨_, _⟩⟩ <;> rw [hmask] at h
  · cases h
    rfl
  · dsimp only at h
    split at h
    · cases h
    · cases h
      rfl
  · cases h
    rfl

theorem setOwnerSuccession_false {req : SetRoomDataInternalRequest}
    (h : setOwnerSuccession req r = (.ok false, r')) : r' = r := by
  unfold setOwnerSuccession at h
  split at h
  · cases h
    rfl
  · obtain ⟨succession, -, h⟩ := Call.ofExcept_bind_eq_ok h
    rw [Call.read_bind_run] at h
    split at h
    · cases h
    · cases h
      rfl

theorem collect_nil {f : List β → α → RoomCall (List β)}
    (hf : ∀ acc a r r', f acc a r = (.ok [], r') → acc = [] ∧ r' = r) {xs : List α}
    (h : xs.foldlM f [] r = (.ok [], r')) : r' = r := by
  refine Call.foldlM_ok (I := fun acc s => acc = [] → s = r) ?_ (fun _ => rfl) h rfl
  intro acc a s acc' s' hI hrun e
  subst e
  obtain ⟨hnil, rfl⟩ := hf acc a s s' hrun
  exact hI hnil

theorem setPasswordConfig_nil {gc : RoomGroupPasswordConfig}
    (h : setPasswordConfig newGroups gc r = (.ok [], r')) : newGroups = [] ∧ r' = r := by
  obtain ⟨groupId, -, h⟩ := Call.ofExcept_bind_eq_ok h
  rw [Call.read_bind_run] at h
  split at h
  · cases h
    exact ⟨rfl, rfl⟩
  · obtain ⟨g, -, h⟩ := Call.unwrap_bind_eq_ok h
    split at h
    · cases newGroups <;> cases h
    · cases h
      exact ⟨rfl, rfl⟩

theorem setBinAttrInternal_nil {memberId : UInt16} {now : UInt64} {p : BinAttr}
    (h : setBinAttrInternal memberId now ids p r = (.ok [], r')) : ids = [] ∧ r' = r := by
  obtain ⟨a, -, h⟩ := Call.ofExcept_bind_eq_ok h
  split at h
  · cases h
    exact ⟨rfl, rfl⟩
  · cases ids <;> cases h

theorem setInternalAsOwner_false {req : SetRoomDataInternalRequest}
    (h : setInternalAsOwner req r = (.ok (false, newGroups), r')) : r' = r := by
  obtain ⟨flagChanged, r₁, hflag, h⟩ := Call.bind_eq_ok h
  obtain ⟨groups, r₂, hgroups, h⟩ := Call.bind_eq_ok h
  obtain ⟨maskChanged, r₃, hmask, h⟩ := Call.bind_eq_ok h
  obtain ⟨successionChanged, r₄, hsucc, h⟩ := Call.bind_eq_ok h
  have hall : (flagChanged || groups != [] || maskChanged || successionChanged) = false := by
    injection h with h
    injection h with h
    exact congrArg Prod.fst h
  have hr' : r₄ = r' := congrArg Prod.snd h
  simp only [Bool.or_eq_false_iff, bne_eq_false_iff_eq] at hall
  obtain ⟨⟨⟨rfl, rfl⟩, rfl⟩, rfl⟩ := hall
  cases setFlagAttr_false hflag
  cases collect_nil (fun _ _ _ _ => setPasswordConfig_nil) hgroups
  cases setPasswordSlotMask_false hmask
  cases setOwnerSuccession_false hsucc
  exact hr'.symm

theorem setInternal_none {req : SetRoomDataInternalRequest} {now : UInt64}
    (h : setInternal req userId now r = (.ok none, r')) : r' = r := by
  rw [setInternal, Call.read_bind_run] at h
  obtain ⟨mid, -, h⟩ := Call.ofExcept_bind_eq_ok h
  obtain ⟨⟨ownerChanged, newGroups⟩, r₁, hown, h⟩ := Call.bind_eq_ok h
  obtain ⟨newAttrs, r₂, hattrs, hend⟩ := Call.bind_eq_ok h
  split at hend
  · obtain ⟨_, -, hend⟩ := Call.unwrap_bind_eq_ok hend
    cases hend
  · rename_i hquiet
    rw [Bool.not_eq_true, Bool.or_eq_false_iff, bne_eq_false_iff_eq] at hquiet
    obtain ⟨rfl, rfl⟩ := hquiet
    have h₁ : r₁ = r := by
      split at hown
      · exact setInternalAsOwner_false hown
      · cases hown
        rfl
    have h₂ : r₂ = r₁ := collect_nil (fun _ _ _ _ => setBinAttrInternal_nil) hattrs
    cases hend
    exact h₂.trans h₁

/-! ## 4. `set_roommemberdata_internal` -/

theorem putUser_putUser (r : Room) (mid : UInt16) (u v : RoomUser) :
    (r.putUser mid u).putUser mid v = r.putUser mid v := by
  refine congrArg (fun users => { r with users }) (ExtTreeMap.ext_getElem? fun k => ?_)
  show ((r.users.insert mid u).insert mid v)[k]? = (r.users.insert mid v)[k]?
  simp only [TreeMap.getElem?_insert]
  split <;> rfl

theorem putUser_self (h : r.users[mid]? = some u) : r.putUser mid u = r := by
  refine congrArg (fun users => { r with users }) (ExtTreeMap.ext_getElem? fun k => ?_)
  rw [TreeMap.getElem?_insert]
  split
  · rename_i e
    rw [e, h]
  · rfl

inductive MemberAttrStep (attrs : List BinAttr) (target : UInt16) (user : RoomUser) (now : UInt64)
    (r : Room) : Outcome ErrorType RoomPanic (List Uint16) × Room → Prop
  | malformed (p : BinAttr) (e : ErrorType) (hp : attrs = [p])
      (he : RoomMemberBinAttr.fromProtobuf p now = .error e) :
      MemberAttrStep attrs target user now r (.err e, r)
  | other : MemberAttrStep attrs target user now r (.ok [], r)
  | stored (a : RoomMemberBinAttr) (id : Uint16) :
      MemberAttrStep attrs target user now r
        (.ok [id], r.putUser target { user with memberAttr := a })

theorem setMemberAttr_step (attrs : List BinAttr) (target : UInt16) (user : RoomUser)
    (now : UInt64) (r : Room) :
    MemberAttrStep attrs target user now r (setMemberAttr attrs target user now r) := by
  rcases attrs with _ | ⟨p, _ | ⟨_, _⟩⟩
  · exact .other
  · unfold setMemberAttr
    dsimp only
    cases hp : RoomMemberBinAttr.fromProtobuf p now with
    | error e =>
      rw [Call.bind_err (Call.ofExcept_error e r)]
      exact .malformed p e rfl hp
    | ok a =>
      rw [Call.bind_ok (Call.ofExcept_ok a r)]
      split
      · exact .stored a _
      · exact .other
  · exact .other

/-- **How `set_roommemberdata_internal` ends on a member.** The team is stored before the attribute
    is looked at, so an attribute that does not convert leaves a new team behind. -/
inductive MemberDataStep (req : SetRoomMemberDataInternalRequest) (now : UInt64) (r : Room)
    (target : UInt16) (u : RoomUser) :
    Outcome ErrorType RoomPanic (Option (Finset UserId × RoomMemberDataInternalUpdateInfo)) × Room →
      Prop
  | refused (e : ErrorType) : MemberDataStep req now r target u (.err e, r)
  | malformed (p : BinAttr) (e : ErrorType) (teamId : UInt8)
      (hp : req.roomMemberBinAttrInternal = [p])
      (he : RoomMemberBinAttr.fromProtobuf p now = .error e)
      (ht : Uint8.getVerifiedOpt req.teamId = .ok teamId) (h0 : teamId ≠ 0) :
      MemberDataStep req now r target u (.err e, r.putUser target { u with teamId })
  | quiet : MemberDataStep req now r target u (.ok none, r)
  | stored (o : Outcome ErrorType RoomPanic
        (Option (Finset UserId × RoomMemberDataInternalUpdateInfo)))
      (teamId : UInt8) (memberAttr : RoomMemberBinAttr) (herr : ∀ e, o ≠ .err e)
      (hnone : o ≠ .ok none) :
      MemberDataStep req now r target u (o, r.putUser target { u with teamId, memberAttr })

theorem memberUpdate_end {team : UInt8} : ∃ o, (do
      let r ← Call.read
      let u ← Call.unwrap r.users[target]? .userMissing
      let data ← Call.unwrap (r.toRoomMemberDataInternal u) .groupIndex
      return some (r.getRoomUserIds.erase userId,
        ⟨data, u.flagAttr, Uint8.newFromValue team, ids⟩) :
        RoomCall (Option (Finset UserId × RoomMemberDataInternalUpdateInfo))) r = (o, r) ∧
      (∀ e, o ≠ .err e) ∧ o ≠ .ok none := by
  rw [Call.bind_ok (Call.read_run r)]
  cases r.users[target]? with
  | none => exact ⟨_, rfl, (fun e h => by cases h), (fun h => by cases h)⟩
  | some u =>
    rw [Call.bind_ok (Call.unwrap_some u _ r)]
    cases r.toRoomMemberDataInternal u with
    | none => exact ⟨_, rfl, (fun e h => by cases h), (fun h => by cases h)⟩
    | some data => exact ⟨_, rfl, (fun e h => by cases h), (fun h => by cases h)⟩

theorem setMemberData_step (hu : r.users[target]? = some u)
    (req : SetRoomMemberDataInternalRequest) (userId : UserId) (now : UInt64) :
    MemberDataStep req now r target u (setMemberData req userId now target u r) := by
  unfold setMemberData
  cases hteam : Uint8.getVerifiedOpt req.teamId with
  | error e => exact .refused e
  | ok team =>
    rw [Call.bind_ok (Call.ofExcept_ok team r), Call.modify_bind_run]
    -- a team that does not change is written back as it was found
    by_cases hchanged : (team != 0 && u.teamId != team) = true
    · have h0 : team ≠ 0 := by
        rw [Bool.and_eq_true, bne_iff_ne] at hchanged
        exact hchanged.1
      simp only [hchanged, if_true, Bool.true_or]
      have hstep := setMemberAttr_step req.roomMemberBinAttrInternal target
        { u with teamId := team } now (r.putUser target { u with teamId := team })
      generalize hres : setMemberAttr _ _ _ _ _ = res at hstep
      cases hstep with
      | malformed p e hp he =>
        rw [Call.bind_err hres]
        exact .malformed p e team hp he hteam h0
      | other =>
        rw [Call.bind_ok hres]
        obtain ⟨o, ho, herr, hnone⟩ := memberUpdate_end
        rw [ho]
        exact .stored o team u.memberAttr herr hnone
      | stored a id =>
        rw [Call.bind_ok hres, putUser_putUser]
        obtain ⟨o, ho, herr, hnone⟩ := memberUpdate_end
        rw [ho]
        exact .stored o team a herr hnone
    · rw [Bool.not_eq_true] at hchanged
      simp only [hchanged, Bool.false_eq_true, if_false, Bool.false_or]
      rw [putUser_self hu]
      have hstep := setMemberAttr_step req.roomMemberBinAttrInternal target u now r
      generalize hres : setMemberAttr _ _ _ _ _ = res at hstep
      cases hstep with
      | malformed p e hp he =>
        rw [Call.bind_err hres]
        exact .refused e
      | other =>
        rw [Call.bind_ok hres]
        exact .quiet
      | stored a id =>
        rw [Call.bind_ok hres]
        obtain ⟨o, ho, herr, hnone⟩ := memberUpdate_end
        simp only [bne_iff_ne, ne_eq, List.cons_ne_self, not_false_eq_true, if_true]
        rw [ho]
        exact .stored o u.teamId a herr hnone

theorem setMember_run (req : SetRoomMemberDataInternalRequest) (userId : UserId) (now : UInt64)
    (r : Room) : (∃ e, setMember req userId now r = (.err e, r)) ∨
    userId ∈ r.getRoomUserIds ∧ ∃ target u, r.users[target]? = some u ∧
      (u.userId = userId ∨ r.IsOwner userId) ∧
      setMember req userId now r = setMemberData req userId now target u r := by
  unfold setMember
  rw [Call.read_bind_run]
  cases hm : r.memberOf userId with
  | none =>
    rw [getMemberId_none hm]
    exact Or.inl ⟨_, rfl⟩
  | some mid =>
    rw [getMemberId_some hm, Call.bind_ok (Call.ofExcept_ok mid r)]
    obtain ⟨v, hv, hvid⟩ := memberOf_some hm
    cases hid : Uint16.getVerifiedOpt req.memberId with
    | error e => exact Or.inl ⟨e, rfl⟩
    | ok reqId =>
      rw [Call.bind_ok (Call.ofExcept_ok reqId r)]
      generalize (if reqId = 0 then mid else reqId) = target
      split
      · exact Or.inl ⟨_, rfl⟩
      · rename_i hauth
        cases hu : r.users[target]? with
        | none => exact Or.inl ⟨_, rfl⟩
        | some u =>
          refine Or.inr ⟨mem_getRoomUserIds.mpr ⟨mid, v, hv, hvid⟩, target, u, hu, ?_, rfl⟩
          by_cases hself : mid = target
          · rw [← hself, hv] at hu
            cases hu
            exact Or.inl hvid
          · have howner : mid = r.owner := by_contra fun ho => hauth ⟨hself, ho⟩
            exact Or.inr (by rw [IsOwner, hm, howner])

theorem setMember_memberDataOnly {req : SetRoomMemberDataInternalRequest} {now : UInt64} :
    (setMember req userId now r).2 = r ∨
    userId ∈ r.getRoomUserIds ∧ MemberDataOnly userId r (setMember req userId now r).2 := by
  rcases setMember_run req userId now r with ⟨e, h⟩ | ⟨hmem, target, u, hu, hwho, h⟩
  · rw [h]
    exact Or.inl rfl
  · rw [h]
    have hstep := setMemberData_step hu req userId now
    generalize setMemberData req userId now target u r = res at hstep
    cases hstep with
    | refused e => exact Or.inl rfl
    | malformed p e teamId hp he ht h0 =>
      exact Or.inr ⟨hmem, target, u, teamId, u.memberAttr, hu, hwho, rfl⟩
    | quiet => exact Or.inl rfl
    | stored o teamId memberAttr herr hnone =>
      exact Or.inr ⟨hmem, target, u, teamId, memberAttr, hu, hwho, rfl⟩

theorem setMember_none {req : SetRoomMemberDataInternalRequest} {now : UInt64}
    (h : setMember req userId now r = (.ok none, r')) : r' = r := by
  rcases setMember_run req userId now r with ⟨e, hrun⟩ | ⟨-, target, u, hu, -, hrun⟩
  · rw [hrun] at h
    cases h
  · rw [hrun] at h
    have hstep := setMemberData_step hu req userId now
    rw [h] at hstep
    cases hstep with
    | quiet => rfl
    | stored _ teamId memberAttr herr hnone => exact absurd rfl hnone

/-! ## 5. Nobody is moved -/

theorem ExternalOnly.sameSeats (h : ExternalOnly r r') : SameSeats r r' := by
  obtain ⟨_, _, _, rfl⟩ := h
  constructor <;> intros <;> rfl

theorem OwnerOnly.sameSeats (h : OwnerOnly r r') : SameSeats r r' := by
  obtain ⟨_, groupConfig, _, _, _, rfl, -, hgroups⟩ := h
  refine ⟨rfl, rfl, rfl, rfl, rfl, rfl, rfl, ?_, fun _ => rfl, fun _ => rfl⟩
  -- the tally of a group does not see its password flag
  have hsans : tally = tally ∘ groupSans := rfl
  show groupConfig.map tally = _
  rw [hsans, ← List.map_map, hgroups, List.map_map]

theorem SameSeats.putUser {m : UInt16} {u' : RoomUser} (hm : r.users[m]? = some u)
    (h : seat u' = seat u) : SameSeats r (r.putUser m u') where
  worldId := rfl
  lobbyId := rfl
  roomId := rfl
  maxSlot := rfl
  slots := rfl
  counter := rfl
  owner := rfl
  groups := rfl
  seats a := by
    show ((r.users.insert m u')[a]?).map seat = _
    rw [TreeMap.getElem?_insert]
    by_cases e : a = m
    · rw [if_pos e, e, hm, Option.map_some, Option.map_some, h]
    · rw [if_neg e]
  members g := by
    refine TreeMap.countP_insert_old _ hm ?_
    show decide (u'.groupId.toNat = g + 1) = decide (u.groupId.toNat = g + 1)
    rw [(seat_eq h).2.2.1]

theorem MemberDataOnly.sameSeats (h : MemberDataOnly userId r r') : SameSeats r r' := by
  obtain ⟨target, u, teamId, memberAttr, hu, -, rfl⟩ := h
  exact .putUser hu rfl

theorem setExternal_keeps (req : SetRoomDataExternalRequest) (userId : UserId) :
    Call.Keeps SameSeats (setExternal req userId) := fun r =>
  (setExternal_externalOnly req userId r).sameSeats

theorem setInternal_keeps (userId : UserId) (now : UInt64) :
    Call.Keeps SameSeats (setInternal req userId now) := fun r =>
  (setInternal_ownerOnly req userId now r).sameSeats

theorem setMember_keeps (req : SetRoomMemberDataInternalRequest) (userId : UserId)
    (now : UInt64) : Call.Keeps SameSeats (setMember req userId now) := by
  intro r
  rcases r.setMember_memberDataOnly with h | ⟨-, h⟩
  · rw [h]
    exact .refl r
  · exact h.sameSeats

end Room

end Rpcn
