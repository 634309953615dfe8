/-
  File:      Rpcn/Room/Labels.lean
  Subject:   DO GROUP LABELS SEPARATE TEAMS? The labels of `get_a_slot` and `leave_room`.

  The label a member came in under is not kept with the member, so the component is observed:
  beside the manager stands a record of the label of each admission. A group found by its label has
  members of that label only. But the second pass of `get_a_slot` sends a joiner to the first group
  without a label and does not set one, so the next joiner, with another label, is sent there too.
  And the ids of groups beyond the 255th are those of earlier ones.
-/
import Rpcn.Room.GroupRuns
import Rpcn.Room.Stored

namespace Rpcn

open Lib Np2Structs
open Std (ExtTreeMap)

variable {k : Nat} {userId : UserId} {g : RoomGroupConfig}
  {joinLabel password : Option (Vector UInt8 8)} {groupId : UInt8}

variable {r r' : Room} {under : UserId → Option (Vector UInt8 8)} {req : CreateJoinRoomRequest}
  {cinfo : ClientInfo} {sig : ClientSharedSignalingInfo} {now : UInt64}

namespace Room

/-! ## 1. One room -/

/-- **Members with one group id came under one label**, and it is the label of the group that the
    id designates, if that has one. `under` is the label a user came in under. -/
structure Labelled (r : Room) (under : UserId → Option (Vector UInt8 8)) : Prop where
  team : ∀ {m m' : UInt16} {u u' : RoomUser}, r.users[m]? = some u → r.users[m']? = some u' →
    u.groupId = u'.groupId → under u.userId = under u'.userId
  label : ∀ {k : Nat} {g : RoomGroupConfig} {m : UInt16} {u : RoomUser}, k < 255 →
    r.groupConfig[k]? = some g → g.label ≠ none → r.users[m]? = some u →
    u.groupId = (k + 1).toUInt8 → under u.userId = g.label

structure Loosened (r r' : Room) : Prop where
  members : ∀ {m : UInt16} {u' : RoomUser}, r'.users[m]? = some u' →
    ∃ u, r.users[m]? = some u ∧ u'.userId = u.userId ∧ u'.groupId = u.groupId
  labels : ∀ {k : Nat} {g' : RoomGroupConfig}, r'.groupConfig[k]? = some g' →
    ∃ g, r.groupConfig[k]? = some g ∧ (g'.label = g.label ∨ g'.label = none)

theorem Labelled.loosened (h : r.Labelled under) (hl : Loosened r r') : r'.Labelled under where
  team hm hm' e := by
    obtain ⟨u, hu, hid, hgid⟩ := hl.members hm
    obtain ⟨v, hv, hid', hgid'⟩ := hl.members hm'
    rw [hid, hid']
    exact h.team hu hv (by rw [← hgid, ← hgid', e])
  label hk hg hne hm e := by
    obtain ⟨u, hu, hid, hgid⟩ := hl.members hm
    obtain ⟨g, hg₀, hlab⟩ := hl.labels hg
    rw [hid, hlab.resolve_right hne]
    exact h.label hk hg₀ (hlab.resolve_right hne ▸ hne) hu (by rw [← hgid, e])

theorem Loosened.refl (r : Room) : Loosened r r where
  members hm := ⟨_, hm, rfl, rfl⟩
  labels hg := ⟨_, hg, Or.inl rfl⟩

theorem Loosened.groups_ne_nil (h : Loosened r r') (hne : r'.groupConfig ≠ []) :
    r.groupConfig ≠ [] := by
  obtain ⟨g, gs, e⟩ := List.exists_cons_of_ne_nil hne
  have h0 : r'.groupConfig[0]? = some g := by rw [e]; rfl
  obtain ⟨g₀, hg₀, -⟩ := h.labels h0
  intro hnil
  rw [hnil] at hg₀
  cases hg₀

theorem labels_of_map {gs gs' : List RoomGroupConfig} (h : gs'.map (·.label) = gs.map (·.label))
    {g' : RoomGroupConfig} (hg' : gs'[k]? = some g') :
    ∃ g, gs[k]? = some g ∧ (g'.label = g.label ∨ g'.label = none) := by
  have e := congrArg (·[k]?) h
  simp only [List.getElem?_map] at e
  rw [hg', Option.map_some, eq_comm, Option.map_eq_some_iff] at e
  obtain ⟨g, hg, hl⟩ := e
  exact ⟨g, hg, Or.inl hl.symm⟩

/-! ### Setters -/

theorem ExternalOnly.loosened (h : ExternalOnly r r') : Loosened r r' := by
  obtain ⟨_, _, _, rfl⟩ := h
  exact ⟨(Loosened.refl r).members, (Loosened.refl r).labels⟩

theorem OwnerOnly.loosened (h : OwnerOnly r r') : Loosened r r' := by
  obtain ⟨_, groupConfig, _, _, _, rfl, -, hgroups⟩ := h
  have hlabels : groupConfig.map (·.label) = r.groupConfig.map (·.label) := by
    have e := congrArg (List.map (·.label)) hgroups
    rw [List.map_map, List.map_map] at e
    exact e
  exact ⟨(Loosened.refl r).members, labels_of_map hlabels⟩

theorem MemberDataOnly.loosened (h : MemberDataOnly userId r r') : Loosened r r' := by
  obtain ⟨target, u, teamId, memberAttr, hu, -, rfl⟩ := h
  refine ⟨fun {m v} hm => ?_, (Loosened.refl r).labels⟩
  change (r.users.insert target { u with teamId, memberAttr })[m]? = some v at hm
  rw [TreeMap.getElem?_insert] at hm
  split at hm
  · rename_i e
    cases hm
    exact ⟨u, e ▸ hu, rfl, rfl⟩
  · exact ⟨v, hm, rfl, rfl⟩

/-! ### Leaving -/

theorem leaveGroup_label (g : RoomGroupConfig) :
    (leaveGroup g).label = g.label ∨ (leaveGroup g).label = none := by
  unfold leaveGroup
  dsimp only
  split
  · exact Or.inr rfl
  · exact Or.inl rfl

theorem Loosened.dropMember (r : Room) (m : UInt16) (member : RoomUser) :
    Loosened r (r.dropMember m member) where
  members hm := ⟨_, (dropMember_member hm).2, rfl, rfl⟩
  labels {k g'} hg' := by
    change (if member.groupId = 0 then r.groupConfig
      else r.groupConfig.modify (member.groupId.toNat - 1) leaveGroup)[k]? = some g' at hg'
    split at hg'
    · exact ⟨g', hg', Or.inl rfl⟩
    · obtain ⟨g, hg, rfl⟩ := getElem?_modify_cases hg'
      refine ⟨g, hg, ?_⟩
      split
      · exact leaveGroup_label g
      · exact Or.inl rfl

variable {m : UInt16}

theorem ReleaseStep.loosened {member : RoomUser} (hs : ReleaseStep r m member false r') :
    Loosened r r' := by
  have hdrop := Loosened.dropMember r m member
  cases hs with
  | stays ho => exact hdrop
  | handed s rest ho hs hfirst =>
    refine ⟨fun {m' u'} hm => ?_, hdrop.labels⟩
    obtain ⟨v, hv, rfl⟩ := makeOwner_member hm
    obtain ⟨u, hu, hid, hgid⟩ := hdrop.members hv
    refine ⟨u, hu, ?_, ?_⟩
    · rw [← hid]
      split <;> rfl
    · rw [← hgid]
      split <;> rfl

/-! ### Joining -/

theorem map_label_bumpGroup (r : Room) (k : Nat) :
    (r.bumpGroup k).groupConfig.map (·.label) = r.groupConfig.map (·.label) := by
  refine map_modify ?_ _ k
  exact fun _ => rfl

variable {o : Outcome ErrorType RoomPanic (UInt8 × UInt16)}

theorem SlotStep.labels (h : SlotStep r joinLabel password o r') :
    r'.users = r.users ∧ r'.groupConfig.map (·.label) = r.groupConfig.map (·.label) := by
  cases h with
  | refused e => exact ⟨rfl, rfl⟩
  | short hg hs => exact ⟨rfl, rfl⟩
  | stuck k g p hp ha hno => exact ⟨rfl, map_label_bumpGroup r k⟩
  | group k g slot ha hin hfree => exact ⟨rfl, map_label_bumpGroup r k⟩
  | single slot hg hp hs => exact ⟨rfl, rfl⟩

theorem SlotStep.loosened (h : SlotStep r joinLabel password o r') :
    Loosened r r' where
  members hm := ⟨_, h.labels.1 ▸ hm, rfl, rfl⟩
  labels hg := labels_of_map h.labels.2 hg

theorem AdmitStep.loosened {req : JoinRoomRequest}
    {o : Outcome ErrorType RoomPanic (UInt16 × Finset UserId)}
    (h : AdmitStep r req cinfo sig now o r') (hno : o.isOk = false) : Loosened r r' := by
  cases h with
  | refused e => exact .refl _
  | stuck p _ hs => exact hs.loosened
  | late e groupId memberId _ hs hu hk => exact hs.loosened
  | admitted groupId memberId r₁ u hs hu => cases hno

/-- **What a joiner has to find in the group at index `k`**: whoever has its id came under the
    joiner's label, and the group that the id designates has no other label. -/
structure SameTeam (r : Room) (under : UserId → Option (Vector UInt8 8))
    (joinLabel : Option (Vector UInt8 8)) (k : Nat) : Prop where
  members : ∀ {m : UInt16} {u : RoomUser}, r.users[m]? = some u → u.groupId = (k + 1).toUInt8 →
    under u.userId = joinLabel
  label : ∀ {j : Nat} {g : RoomGroupConfig}, j < 255 → (j + 1).toUInt8 = (k + 1).toUInt8 →
    r.groupConfig[j]? = some g → g.label = none ∨ g.label = joinLabel

theorem Admits.label_cases (h : r.Admits joinLabel password k g) :
    g.label = joinLabel ∨ g.label = none := by
  have ht := h.target
  unfold targetGroup at ht
  rcases Option.or_eq_some_iff.mp ht with hc | ⟨-, hf⟩
  · obtain ⟨g', hg', hp⟩ := getElem?_of_findIdx? hc
    cases hg'.symm.trans h.group
    exact Or.inl (of_decide_eq_true hp)
  · obtain ⟨g', hg', hp⟩ := getElem?_of_findIdx? hf
    cases hg'.symm.trans h.group
    exact Or.inr (of_decide_eq_true hp).1

theorem toUInt8_inj {j : Nat} (hj : j < 255) (hk : k < 255)
    (h : (j + 1).toUInt8 = (k + 1).toUInt8) : j = k := by
  have e := congrArg UInt8.toNat h
  rw [toUInt8_succ hj, toUInt8_succ hk] at e
  omega

theorem Labelled.sameTeam (h : r.Labelled under) (ha : r.Admits joinLabel password k g)
    (hk : k < 255) (hl : g.label ≠ none) : r.SameTeam under joinLabel k where
  members hm e := (h.label hk ha.group hl hm e).trans (ha.label_cases.resolve_right hl)
  label {j g'} hj e hg' := by
    obtain rfl := toUInt8_inj hj hk e
    cases hg'.symm.trans ha.group
    exact Or.inr (ha.label_cases.resolve_right hl)

theorem under_update (hnew : userId ∉ r.getRoomUserIds) (joinLabel : Option (Vector UInt8 8))
    {u : RoomUser} (hm : r.users[m]? = some u) :
    Function.update under userId joinLabel u.userId = under u.userId := by
  refine Function.update_of_ne ?_ _ _
  rintro rfl
  exact hnew (mem_getRoomUserIds.mpr ⟨m, u, hm, rfl⟩)

section Admitted

variable {r r' : Room} {under : UserId → Option (Vector UInt8 8)} {req : JoinRoomRequest}
  {cinfo : ClientInfo} {sig : ClientSharedSignalingInfo} {now : UInt64}
  {x : UInt16 × Finset UserId}

theorem Labelled.admitted (h : r.Labelled under) (hnew : cinfo.userId ∉ r.getRoomUserIds)
    (hne : r.groupConfig ≠ [])
    (hmay : ∀ k g, r.Admits (eightBytes req.joinRoomGroupLabel) (eightBytes req.roomPassword) k g →
      r.SameTeam under (eightBytes req.joinRoomGroupLabel) k)
    (hs : AdmitStep r req cinfo sig now (.ok x) r') :
    r'.Labelled (Function.update under cinfo.userId (eightBytes req.joinRoomGroupLabel)) := by
  cases hs with
  | admitted groupId memberId r₁ u hs hu =>
    have hl := hs.loosened
    cases hs with
    | single slot hnil _ _ => exact absurd hnil hne
    | group k g slot ha hin hfree =>
      have hteam := hmay k g ha
      have hself : Function.update under cinfo.userId (eightBytes req.joinRoomGroupLabel)
          cinfo.userId = eightBytes req.joinRoomGroupLabel := Function.update_self ..
      -- a member is the joiner, or was there before under a label of their own
      refine ⟨fun {m m' v v'} hm hm' e => ?_, fun {j g' m v} hj hg' hlab hm e => ?_⟩
      · rcases addUser_member hm with ⟨-, rfl⟩ | ⟨-, hv⟩
        · rcases addUser_member hm' with ⟨-, rfl⟩ | ⟨-, hv'⟩
          · rfl
          · rw [under_update hnew _ hv', hteam.members hv' e.symm]
            exact hself
        · rcases addUser_member hm' with ⟨-, rfl⟩ | ⟨-, hv'⟩
          · rw [under_update hnew _ hv, hteam.members hv e]
            exact hself.symm
          · rw [under_update hnew _ hv, under_update hnew _ hv']
            exact h.team hv hv' e
      · obtain ⟨g₀, hg₀, hlab₀⟩ := hl.labels hg'
        have hkept := hlab₀.resolve_right hlab
        rw [hkept] at hlab ⊢
        rcases addUser_member hm with ⟨-, rfl⟩ | ⟨-, hv⟩
        · exact hself.trans ((hteam.label hj e.symm hg₀).resolve_left hlab).symm
        · rw [under_update hnew _ hv]
          exact h.label hj hg₀ hlab hv e

theorem Labelled.sameTeam_of_admitted (hd : SlotDiscipline r)
    (hnew : cinfo.userId ∉ r.getRoomUserIds)
    (h' : r'.Labelled (Function.update under cinfo.userId (eightBytes req.joinRoomGroupLabel)))
    (hs : AdmitStep r req cinfo sig now (.ok x) r')
    (ha : r.Admits (eightBytes req.joinRoomGroupLabel) (eightBytes req.roomPassword) k g) :
    r.SameTeam under (eightBytes req.joinRoomGroupLabel) k := by
  cases hs with
  | admitted groupId memberId r₁ u hs hu =>
    have hgrant := hs.granted hd
    cases hs with
    | single slot hnil _ _ => exact absurd hnil ha.groups_ne_nil
    | group k' g' slot ha' hin hfree =>
      obtain rfl : k' = k := Option.some.inj (ha'.target.symm.trans ha.target)
      have hself : Function.update under cinfo.userId (eightBytes req.joinRoomGroupLabel)
          cinfo.userId = eightBytes req.joinRoomGroupLabel := Function.update_self ..
      have hjoiner : (((r.bumpGroup k').markSlot slot).addUser (r.slotMemberId slot)
          (joiner u cinfo (r.slotMemberId slot) (k' + 1).toUInt8)).users[r.slotMemberId slot]? =
            some (joiner u cinfo (r.slotMemberId slot) (k' + 1).toUInt8) :=
        ExtTreeMap.getElem?_insert_self
      refine ⟨fun {m v} hm e => ?_, fun {j gj} hj e hg => ?_⟩
      · have hne : m ≠ r.slotMemberId slot := by
          rintro rfl
          exact hgrant.fresh hd hm rfl
        have hm' : (((r.bumpGroup k').markSlot slot).addUser (r.slotMemberId slot)
            (joiner u cinfo (r.slotMemberId slot) (k' + 1).toUInt8)).users[m]? = some v := by
          show (r.users.insert (r.slotMemberId slot) _)[m]? = some v
          rw [TreeMap.getElem?_insert, if_neg hne]
          exact hm
        have := h'.team hm' hjoiner e
        rw [under_update hnew _ hm] at this
        exact this.trans hself
      · obtain ⟨g'', hg'', hkept⟩ := labels_of_map (map_label_bumpGroup r k').symm hg
        refine or_iff_not_imp_left.mpr fun hnone => ?_
        have hlab := hkept.resolve_right hnone
        rw [hlab] at hnone ⊢
        exact (h'.label hj hg'' hnone hjoiner e.symm).symm.trans hself

end Admitted

/-! ### Founding -/

theorem enterFirstGroup_label (h : r.enterFirstGroup req = .ok (r', groupId))
    (hg : r'.groupConfig[0]? = some g) : g.label = eightBytes req.joinRoomGroupLabel := by
  unfold enterFirstGroup at h
  cases hgc : r.groupConfig with
  | nil =>
    rw [hgc] at h
    simp only at h
    split at h
    · cases h
    · cases h
      rw [hgc] at hg
      cases hg
  | cons g₀ gs =>
    rw [hgc] at h
    simp only at h
    split at h
    · cases h
    split at h
    · cases h
    split at h
    · cases h
    cases hlab : eightBytes req.joinRoomGroupLabel with
    | none =>
      rw [hlab] at h
      cases h
    | some label =>
      rw [hlab] at h
      simp only at h
      split at h
      · cases h
        cases hg
        rfl
      · cases h

theorem Founded.labelled {roomId : UInt64} (hf : Founded req cinfo roomId r)
    (hne : r.groupConfig ≠ []) (hlab : ∀ {g : RoomGroupConfig}, r.groupConfig[0]? = some g →
      g.label = eightBytes req.joinRoomGroupLabel) (under : UserId → Option (Vector UInt8 8)) :
    r.Labelled (Function.update under cinfo.userId (eightBytes req.joinRoomGroupLabel)) where
  team hm hm' _ := by
    obtain ⟨-, hid, -⟩ := hf.member hm
    obtain ⟨-, hid', -⟩ := hf.member hm'
    rw [hid, hid']
  label {k g m u} hk hg _ hm e := by
    have hone : (0 + 1).toUInt8 = (k + 1).toUInt8 := by
      rw [← e, (hf.creator_group hne).1 hm]
      rfl
    obtain rfl := toUInt8_inj (by decide) hk hone
    rw [(hf.member hm).2.1, hlab hg]
    exact Function.update_self ..

end Room

/-! ## 2. The record -/

/-- The label each user came into each room under, the last time they did. -/
abbrev Labels := ComId × UInt64 → UserId → Option (Vector UInt8 8)

def Labels.record (under : Labels) (key : ComId × UInt64) (userId : UserId)
    (label : Option (Vector UInt8 8)) : Labels :=
  Function.update under key (Function.update (under key) userId label)

theorem Labels.record_self (under : Labels) (key : ComId × UInt64) (userId : UserId)
    (label : Option (Vector UInt8 8)) :
    under.record key userId label key = Function.update (under key) userId label :=
  Function.update_self ..

variable {key : ComId × UInt64}

theorem Labels.record_of_ne (under : Labels) {key' : ComId × UInt64} (h : key' ≠ key)
    (userId : UserId) (label : Option (Vector UInt8 8)) :
    under.record key userId label key' = under key' :=
  Function.update_of_ne h ..

namespace RoomManager

def isMember (m : RoomManager) (key : ComId × UInt64) (userId : UserId) : Bool :=
  (m.rooms.get? key).any fun room => userId ∈ room.getRoomUserIds

/-- **What a request adds to the record**: the creator of a room, and a joiner who was not in the
    room before and is now. -/
def noteLabel (m : RoomManager) (op : RoomOp) (res : RoomOutcome × RoomManager) (under : Labels) :
    Labels :=
  match op with
  | .createRoom _ req cinfo _ _ _ =>
    match handed (op, res.1) with
    | some key => under.record key cinfo.userId (eightBytes req.joinRoomGroupLabel)
    | none => under
  | .joinRoom comId req cinfo _ _ =>
    if !m.isMember (comId, req.roomId) cinfo.userId &&
        res.2.isMember (comId, req.roomId) cinfo.userId then
      under.record (comId, req.roomId) cinfo.userId (eightBytes req.joinRoomGroupLabel)
    else under
  | _ => under

def Labelled (m : RoomManager) (under : Labels) : Prop :=
  ∀ (key : ComId × UInt64) (r : Room), m.rooms.get? key = some r → r.groupConfig ≠ [] →
    r.Labelled (under key)

end RoomManager

/-- **The room manager with the record of labels.** -/
def labelSystem : System (RoomManager × Labels) RoomOp RoomOutcome :=
  roomSystem.observed (fun _ _ => none) RoomManager.noteLabel

/-- **The condition on a request**: a joiner finds their own team where they are sent. -/
def LabelGuard (s : RoomManager × Labels) : RoomOp → Prop
  | .joinRoom comId req _ _ _ => ∀ room k g, s.1.rooms.get? (comId, req.roomId) = some room →
      room.Admits (eightBytes req.joinRoomGroupLabel) (eightBytes req.roomPassword) k g →
      room.SameTeam (s.2 (comId, req.roomId)) (eightBytes req.joinRoomGroupLabel) k
  | _ => True

variable {room : Room} {op : RoomOp}

variable {m m' : RoomManager} {comId : ComId}

namespace RoomManager

/-! ## 3. One request -/

theorem Labelled.loosened {under : Labels} (h : m.Labelled under)
    (hrooms : ∀ {key : ComId × UInt64} {r' : Room}, m'.rooms.get? key = some r' →
      ∃ r, m.rooms.get? key = some r ∧ r.Loosened r') : m'.Labelled under := by
  intro key r' hr' hne
  obtain ⟨r, hr, hl⟩ := hrooms hr'
  exact (h key r hr (hl.groups_ne_nil hne)).loosened hl

theorem loosened_insert {m m' : RoomManager} {key : ComId × UInt64} {room r' : Room}
    (hrooms : m'.rooms = m.rooms.insert key r') (hr : m.rooms.get? key = some room)
    (hl : room.Loosened r') {key' : ComId × UInt64} {r'' : Room}
    (h : m'.rooms.get? key' = some r'') :
    ∃ r, m.rooms.get? key' = some r ∧ r.Loosened r'' := by
  rw [hrooms, HashMap.get?_insert] at h
  split at h
  · rename_i e
    cases h
    exact ⟨room, e ▸ hr, hl⟩
  · exact ⟨r'', h, .refl r''⟩

theorem isMember_of_loosened (hrooms : ∀ {r' : Room}, m'.rooms.get? key = some r' →
      ∃ r, m.rooms.get? key = some r ∧ r.Loosened r') (h : m'.isMember key userId = true) :
    m.isMember key userId = true := by
  obtain ⟨r', hr', hin⟩ := (Option.any_eq_true _ _).mp h
  obtain ⟨r, hr, hl⟩ := hrooms hr'
  obtain ⟨mid, u', hu', rfl⟩ := Room.mem_getRoomUserIds.mp (of_decide_eq_true hin)
  obtain ⟨u, hu, hid, -⟩ := hl.members hu'
  refine (Option.any_eq_true _ _).mpr ⟨r, hr, decide_eq_true ?_⟩
  exact Room.mem_getRoomUserIds.mpr ⟨mid, u, hu, hid.symm⟩

theorem createRoom_label {serverId : UInt16} {resp : CreateRoomResponse}
    (h : createRoom comId req cinfo serverId sig now m = (.ok resp, m'))
    (hr : m'.rooms.get? (comId, m.cnt comId + 1) = some room) (hg : room.groupConfig[0]? = some g) :
    g.label = eightBytes req.joinRoomGroupLabel := by
  obtain ⟨base, u, room', memberId, groupId, -, -, henter, hget⟩ := createRoom_filed h
  cases hr.symm.trans hget
  exact Room.enterFirstGroup_label henter hg

theorem Labelled.createRoom {under : Labels} (h : m.Labelled under) (comId : ComId)
    (req : CreateJoinRoomRequest) (cinfo : ClientInfo) (serverId : UInt16)
    (sig : ClientSharedSignalingInfo) (now : UInt64) :
    (createRoom comId req cinfo serverId sig now m).2.Labelled
      (m.noteLabel (.createRoom comId req cinfo serverId sig now)
        ((RoomOp.createRoom comId req cinfo serverId sig now).call m) under) := by
  have hs := createRoom_step m comId req cinfo serverId sig now
  rcases hrun : RoomManager.createRoom comId req cinfo serverId sig now m with ⟨o, m'⟩
  rw [hrun] at hs
  rw [RoomOp.call, Call.mapOk, hrun]
  cases hs with
  | refused e _ => exact h
  | late e _ _ _ _ => exact h
  | created room resp hf hresp =>
    have hid : resp.internal.roomId = room.roomId := hresp.trans hf.roomId.symm
    show (m.stored comId room cinfo.userId).Labelled
      (under.record (comId, resp.internal.roomId) cinfo.userId _)
    rw [hid]
    intro key r hr hne
    by_cases hkey : key = (comId, room.roomId)
    · subst hkey
      obtain rfl := Option.some.inj ((stored_self m comId room cinfo.userId).symm.trans hr)
      rw [Labels.record_self]
      refine hf.labelled hne (fun hg => ?_) _
      rw [hf.roomId] at hr
      exact createRoom_label hrun hr hg
    · rw [Labels.record_of_ne _ hkey]
      have hr : (m.rooms.insert (comId, room.roomId) room).get? key = some r := hr
      rw [HashMap.get?_insert, if_neg hkey] at hr
      exact h key r hr hne

theorem noteLabel_refused {req : JoinRoomRequest} (sig : ClientSharedSignalingInfo) (now : UInt64)
    (o : RoomOutcome) (hrooms : ∀ {r' : Room}, m'.rooms.get? (comId, req.roomId) = some r' →
      ∃ r, m.rooms.get? (comId, req.roomId) = some r ∧ r.Loosened r') (under : Labels) :
    m.noteLabel (.joinRoom comId req cinfo sig now) (o, m') under = under := by
  refine if_neg fun h => ?_
  obtain ⟨hout, hin⟩ := Bool.and_eq_true_iff.mp h
  rw [isMember_of_loosened hrooms hin] at hout
  cases hout

variable {r' : Room}

theorem noteLabel_joined {req : JoinRoomRequest} {x : UInt16 × Finset UserId}
    (hr : m.rooms.get? (comId, req.roomId) = some room)
    (hnew : cinfo.userId ∉ room.getRoomUserIds) (ha : room.AdmitStep req cinfo sig now (.ok x) r')
    (o : RoomOutcome) (under : Labels) :
    m.noteLabel (.joinRoom comId req cinfo sig now)
        (o, m.joined (comId, req.roomId) room r' cinfo.userId) under =
      under.record (comId, req.roomId) cinfo.userId (eightBytes req.joinRoomGroupLabel) := by
  have hout : m.isMember (comId, req.roomId) cinfo.userId = false := by
    rw [isMember, hr, Option.any_some]
    exact decide_eq_false hnew
  have hget : (m.joined (comId, req.roomId) room r' cinfo.userId).rooms.get? (comId, req.roomId) =
      some r' := (HashMap.get?_insert ..).trans (if_pos rfl)
  have hin : (m.joined (comId, req.roomId) room r' cinfo.userId).isMember (comId, req.roomId)
      cinfo.userId = true := by
    rw [isMember, hget, Option.any_some, decide_eq_true_eq]
    cases ha with
    | admitted groupId memberId r₁ u hs hu =>
      exact Room.mem_getRoomUserIds.mpr ⟨memberId, _, ExtTreeMap.getElem?_insert_self, rfl⟩
  refine if_pos ?_
  rw [hout, hin]
  rfl

section Join

variable {m m' : RoomManager} {under : Labels} {comId : ComId} {req : JoinRoomRequest}
  {cinfo : ClientInfo} {sig : ClientSharedSignalingInfo} {now : UInt64}
  {o : Outcome ErrorType RoomPanic JoinResult} {o' : RoomOutcome}

theorem Labelled.joinRoom (hI : Inv m) (h : m.Labelled under)
    (hg : LabelGuard (m, under) (.joinRoom comId req cinfo sig now))
    (hs : JoinStep m comId req cinfo sig now o m') :
    m'.Labelled (m.noteLabel (.joinRoom comId req cinfo sig now) (o', m') under) := by
  cases hs with
  | absent e =>
    rw [noteLabel_refused sig now o' fun hr => ⟨_, hr, .refl _⟩]
    exact h
  | failed room r' e hr hnew ha =>
    have hl := fun {key r} => @loosened_insert m (m.putRoom (comId, req.roomId) r') _ room r' rfl
      hr (ha.loosened rfl) key r
    rw [noteLabel_refused sig now o' hl]
    exact h.loosened hl
  | stuck room r' p hr hnew ha =>
    have hl := fun {key r} => @loosened_insert m (m.putRoom (comId, req.roomId) r') _ room r' rfl
      hr (ha.loosened rfl) key r
    rw [noteLabel_refused sig now o' hl]
    exact h.loosened hl
  | joined room r' memberId previous o ho hr hnew ha =>
    rw [noteLabel_joined hr hnew ha]
    intro key r hget hne
    have hget : (m.rooms.insert (comId, req.roomId) r').get? key = some r := hget
    rw [HashMap.get?_insert] at hget
    by_cases hkey : key = (comId, req.roomId)
    · rw [if_pos hkey] at hget
      cases hget
      rw [hkey, Labels.record_self]
      have hne₀ : room.groupConfig ≠ [] :=
        groups_ne_nil_of_length (ha.groups_length (hI.wf hr).slots) hne
      exact (h _ _ hr hne₀).admitted hnew hne₀ (fun k g => hg room k g hr) ha
    · rw [if_neg hkey] at hget
      rw [Labels.record_of_ne _ hkey]
      exact h key r hget hne

theorem labelGuard_of_joined (hI : Inv m)
    (h' : m'.Labelled (m.noteLabel (.joinRoom comId req cinfo sig now) (o', m') under))
    (hs : JoinStep m comId req cinfo sig now o m') (hok : o.isOk = true) :
    LabelGuard (m, under) (.joinRoom comId req cinfo sig now) := by
  cases hs with
  | absent => cases hok
  | failed => cases hok
  | stuck => cases hok
  | joined room r' memberId previous o ho hr hnew ha =>
    intro room' k g hr' hadm
    obtain rfl := Option.some.inj (hr.symm.trans hr')
    rw [noteLabel_joined hr hnew ha] at h'
    have hget : (m.joined (comId, req.roomId) room r' cinfo.userId).rooms.get?
        (comId, req.roomId) = some r' := (HashMap.get?_insert ..).trans (if_pos rfl)
    have hne : r'.groupConfig ≠ [] :=
      groups_ne_nil_of_length (ha.groups_length (hI.wf hr).slots).symm hadm.groups_ne_nil
    have hlab := h' _ _ hget hne
    rw [Labels.record_self] at hlab
    exact hlab.sameTeam_of_admitted (hI.wf hr).slots hnew ha hadm

end Join

def Admitting : RoomOp → Prop
  | .createRoom .. => True
  | .joinRoom .. => True
  | _ => False

theorem RoomStep.loosened (h : RoomStep m op key r') (hop : ¬ Admitting op) :
    ∃ r, m.rooms.get? key = some r ∧ r.Loosened r' := by
  cases h with
  | same _ _ _ hr => exact ⟨r', hr, .refl r'⟩
  | founded => exact absurd trivial hop
  | admitted => exact absurd trivial hop
  | released comId roomId userId random room _ mid member hr hm hu hs =>
    exact ⟨room, hr, hs.loosened⟩
  | external comId req userId room hr =>
    exact ⟨room, hr, (Room.setExternal_externalOnly req userId room).loosened⟩
  | internal comId req userId now room hr =>
    exact ⟨room, hr, (Room.setInternal_ownerOnly req userId now room).loosened⟩
  | member comId req userId now room hr =>
    refine ⟨room, hr, ?_⟩
    rcases room.setMember_memberDataOnly with e | ⟨-, hd⟩
    · rw [e]
      exact .refl room
    · exact hd.loosened

theorem Labelled.other (hI : Inv m) {under : Labels} (h : m.Labelled under) (hop : ¬ Admitting op)
    (hnote : ∀ res, m.noteLabel op res under = under) :
    (op.call m).2.Labelled (m.noteLabel op (op.call m) under) := by
  rw [hnote]
  exact h.loosened fun hr => (call_roomStep hI op hr).loosened hop

theorem Labelled.call (hI : Inv m) {under : Labels} (h : m.Labelled under) (op : RoomOp)
    (hg : LabelGuard (m, under) op) :
    (op.call m).2.Labelled (m.noteLabel op (op.call m) under) := by
  cases op with
  | createRoom comId req cinfo serverId sig now =>
    have hs := h.createRoom comId req cinfo serverId sig now
    rwa [← Call.mapOk_state RoomReply.created] at hs
  | joinRoom comId req cinfo sig now =>
    have hs := reqJoinRoom_step m comId req cinfo sig now
    rw [← Call.mapOk_state RoomReply.joined] at hs
    exact h.joinRoom hI hg hs
  | leaveRoom => exact h.other hI id fun _ => rfl
  | setRoomdataExternal => exact h.other hI id fun _ => rfl
  | setRoomdataInternal => exact h.other hI id fun _ => rfl
  | setRoommemberdataInternal => exact h.other hI id fun _ => rfl

theorem Labelled.call_iff (hI : Inv m) {under : Labels} (h : m.Labelled under) (op : RoomOp)
    (hok : (op.call m).1.isOk = true) :
    (op.call m).2.Labelled (m.noteLabel op (op.call m) under) ↔ LabelGuard (m, under) op := by
  refine ⟨fun h' => ?_, h.call hI op⟩
  cases op with
  | joinRoom comId req cinfo sig now =>
    have hs := reqJoinRoom_step m comId req cinfo sig now
    rw [RoomOp.call, Call.mapOk_isOk] at hok
    rw [← Call.mapOk_state RoomReply.joined] at hs
    exact labelGuard_of_joined hI h' hs hok
  | createRoom => trivial
  | leaveRoom => trivial
  | setRoomdataExternal => trivial
  | setRoomdataInternal => trivial
  | setRoommemberdataInternal => trivial

end RoomManager

/-! ## 4. Over whole runs -/

theorem labelled_of_run {es : List (RoomOp × RoomOutcome)} {s : RoomManager × Labels}
    (h : (labelSystem.restrict LabelGuard).Run es s) : s.1.Labelled s.2 := by
  refine h.history (I := fun _ s => s.1.Labelled s.2) ?_ ?_
  · intro key r hget
    cases hget
  · intro es s op hrun ih hen
    exact ih.call (inv_of_run hrun.unrestrict.unobserved) op hen.2

/-- **Do group labels separate teams?** In every state of a run whose joiners find their own team
    where they are sent: two members of a room with groups who have one group id came under one
    label. A joiner who finds their label in one of the first 255 groups always does; so the
    condition is on those who are sent to a group without a label, and to groups beyond the 255th.
    It is exact: a further request that returns keeps the teams apart only if it meets it. -/
theorem labels_separate_teams {es : List (RoomOp × RoomOutcome)} {s : RoomManager × Labels}
    (h : (labelSystem.restrict LabelGuard).Run es s) :
    (∀ (key : ComId × UInt64) (room : Room), s.1.rooms.get? key = some room →
      room.groupConfig ≠ [] →
      (∀ (m m' : UInt16) (u u' : RoomUser), room.users[m]? = some u → room.users[m']? = some u' →
        u.groupId = u'.groupId → s.2 key u.userId = s.2 key u'.userId) ∧
      ∀ joinLabel password k g, room.Admits joinLabel password k g → k < 255 → g.label ≠ none →
        room.SameTeam (s.2 key) joinLabel k) ∧
    ∀ op : RoomOp, (op.call s.1).1.isOk = true →
      ((labelSystem.step s op).2.1.Labelled (labelSystem.step s op).2.2 ↔ LabelGuard s op) := by
  have hI := inv_of_run h.unrestrict.unobserved
  have hlab := labelled_of_run h
  refine ⟨fun key room hr hne => ?_, fun op hok => hlab.call_iff hI op hok⟩
  have hroom := hlab key room hr hne
  exact ⟨fun m m' u u' => hroom.team, fun joinLabel password k g => hroom.sameTeam⟩

/-! ### Two teams -/

def Room.teamAt (room : Room) (mid : UInt16) : Option (UserId × UInt8) :=
  (room.users[mid]?).map fun u => (u.userId, u.groupId)

theorem Room.teamAt_some {mid : UInt16} (h : room.teamAt mid = some (userId, groupId)) :
    ∃ u, room.users[mid]? = some u ∧ u.userId = userId ∧ u.groupId = groupId := by
  obtain ⟨u, hu, e⟩ := Option.map_eq_some_iff.mp h
  obtain ⟨hid, hgid⟩ := Prod.mk.inj e
  exact ⟨u, hu, hid, hgid⟩

def joinFirstGroup : RoomOp :=
  .joinRoom zeroComId (joinUnder 1) (player 2) ClientSharedSignalingInfo.new 0

def labelledOpen : RoomManager × Labels := (labelSystem.step labelSystem.init openTwoGroups).2

theorem joinFirstGroup_guard : LabelGuard labelledOpen joinFirstGroup := by
  have hopen : (labelSystem.restrict LabelGuard).Run _ labelledOpen :=
    .step openTwoGroups .start ⟨trivial, trivial⟩
  intro room k g hr ha
  have hall : (labelledOpen.1.rooms.get? (zeroComId, 1)).all
      (fun r => r.targetGroup (eightBytes (labelOf 1)) none = some 0 ∧
        (r.groupConfig[0]?).map (·.label) = some (eightBytes (labelOf 1))) = true := by decide
  rw [show labelledOpen.1.rooms.get? (zeroComId, 1) = some room from hr, Option.all_some,
    decide_eq_true_eq] at hall
  obtain rfl : 0 = k := Option.some.inj (hall.1.symm.trans ha.target)
  have hlab := hall.2
  rw [ha.group, Option.map_some, Option.some.injEq] at hlab
  refine (labelled_of_run hopen _ room hr ha.groups_ne_nil).sameTeam ha (by decide) ?_
  rw [hlab]
  decide

theorem labels_separate_teams_joined :
    ∃ es s room, (labelSystem.restrict LabelGuard).Run es s ∧
      s.1.rooms.get? (zeroComId, 1) = some room ∧ room.teamAt 16 = some (1, 1) ∧
      room.teamAt 33 = some (2, 1) ∧ s.2 (zeroComId, 1) 1 = s.2 (zeroComId, 1) 2 := by
  have hrun := System.Run.step (M := labelSystem.restrict LabelGuard) joinFirstGroup
    (.step openTwoGroups .start ⟨trivial, trivial⟩) ⟨trivial, joinFirstGroup_guard⟩
  have hsome : ((labelSystem.step labelledOpen joinFirstGroup).2.1.rooms.get? (zeroComId, 1)).any
      (fun r => r.groupConfig ≠ [] ∧ r.teamAt 16 = some (1, 1) ∧ r.teamAt 33 = some (2, 1)) =
        true := by decide
  obtain ⟨room, hr, hroom⟩ := (Option.any_eq_true _ _).mp hsome
  obtain ⟨hne, hcreator, hjoiner⟩ := of_decide_eq_true hroom
  obtain ⟨u, hu, hid, hgid⟩ := Room.teamAt_some hcreator
  obtain ⟨u', hu', hid', hgid'⟩ := Room.teamAt_some hjoiner
  have hteam := ((labels_separate_teams hrun).1 _ room hr hne).1 _ _ u u' hu hu'
    (hgid.trans hgid'.symm)
  rw [hid, hid'] at hteam
  exact ⟨_, _, room, hrun, hr, hcreator, hjoiner, hteam⟩

def openLabelless : RoomOp :=
  .createRoom zeroComId { roomOfTwoGroups with groupConfig := [⟨1, [], false⟩, ⟨2, [], false⟩] }
    (player 1) 0 ClientSharedSignalingInfo.new 0

def joinAs (userId : UserId) (b : UInt8) : RoomOp :=
  .joinRoom zeroComId (joinUnder b) (player userId) ClientSharedSignalingInfo.new 0

def withMixedTeam : RoomManager × Labels :=
  (labelSystem.step (labelSystem.step (labelSystem.step labelSystem.init openLabelless).2
    (joinAs 2 2)).2 (joinAs 3 3)).2

/-- **A team of two labels**: the label-less group took player 2 without taking the label, and then
    it takes player 3 under another one. -/
theorem labels_mixed :
    ∃ es s room, labelSystem.Run es s ∧ (∀ e ∈ es, e.2.isOk = true) ∧
      s.1.rooms.get? (zeroComId, 1) = some room ∧ room.groupConfig ≠ [] ∧
      room.teamAt 33 = some (2, 2) ∧ room.teamAt 50 = some (3, 2) ∧
      s.2 (zeroComId, 1) 2 = eightBytes (labelOf 2) ∧
      s.2 (zeroComId, 1) 3 = eightBytes (labelOf 3) ∧
      eightBytes (labelOf 2) ≠ eightBytes (labelOf 3) := by
  have hrun := System.Run.step (M := labelSystem) (joinAs 3 3)
    (.step (joinAs 2 2) (.step openLabelless .start trivial) trivial) trivial
  have hsome : (withMixedTeam.1.rooms.get? (zeroComId, 1)).any
      (fun r => r.groupConfig ≠ [] ∧ r.teamAt 33 = some (2, 2) ∧ r.teamAt 50 = some (3, 2)) =
        true := by decide +kernel
  obtain ⟨room, hr, hroom⟩ := (Option.any_eq_true _ _).mp hsome
  obtain ⟨hne, h2, h3⟩ := of_decide_eq_true hroom
  have hlabels : withMixedTeam.2 (zeroComId, 1) 2 = eightBytes (labelOf 2) ∧
      withMixedTeam.2 (zeroComId, 1) 3 = eightBytes (labelOf 3) := by decide +kernel
  refine ⟨_, withMixedTeam, room, hrun, ?_, hr, hne, h2, h3, hlabels.1, hlabels.2, by decide⟩
  decide +kernel

end Rpcn
