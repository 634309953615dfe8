/-
  File:      Rpcn/Room/FailedUpdate.lean
  Subject:   WHAT A FAILED UPDATE LEAVES BEHIND.

  The three setters convert and store in the same loops, so an element that does not convert ends
  the call with an error after the elements before it were stored, and nobody is notified.
-/
import Rpcn.Room.Authority

namespace Rpcn

open Lib Np2Structs

/-! ## 1. Setters that return no error -/

variable {α β : Type} {req : SetRoomDataInternalRequest} {userId : UserId} {r : Room}
  {e : ErrorType} {now : UInt64}

namespace Room

structure ExternalConverts (req : SetRoomDataExternalRequest) : Prop where
  bin : ∀ p ∈ req.roomBinAttrExternal, ∃ a : RoomBinAttr 256, RoomBinAttr.fromProtobuf p = .ok a
  searchBin : ∀ p ∈ req.roomSearchableBinAttrExternal,
    ∃ a : RoomBinAttr 64, RoomBinAttr.fromProtobuf p = .ok a
  searchInt : ∀ p ∈ req.roomSearchableIntAttrExternal, ∃ a, RoomIntAttr.fromProtobuf p = .ok a

structure OwnerConverts (req : SetRoomDataInternalRequest) : Prop where
  groups : ∀ gc ∈ req.passwordConfig, ∃ i, Uint8.getVerifiedOpt gc.groupId = .ok i
  ranks : ∀ i ∈ req.ownerPrivilegeRank, ∃ mid, i.getVerified = .ok mid

theorem unfailing_storeAll {xs : List β} {conv : β → Except ErrorType α} {store : α → Room → Room}
    (h : ∀ p ∈ xs, ∃ a, conv p = .ok a) :
    Call.Unfailing (xs.forM fun p => do
      let a ← (Call.ofExcept (conv p) : RoomCall α)
      Call.modify (store a)) := by
  refine Call.unfailing_forM fun p hp => ?_
  obtain ⟨a, ha⟩ := h p hp
  exact Call.unfailing_bind (Call.unfailing_ofExcept ha) fun _ => Call.unfailing_modify _

theorem setExternal_err {req : SetRoomDataExternalRequest}
    (hconv : r.IsOwner userId → ExternalConverts req) (he : (setExternal req userId r).1 = .err e) :
    (setExternal req userId r).2 = r := by
  by_cases ho : r.IsOwner userId
  · have hreq := hconv ho
    rw [setExternal, Call.read_bind_run, getMemberId_some ho,
      Call.bind_ok (Call.ofExcept_ok r.owner r), if_neg (not_not_intro rfl)] at he
    refine absurd he (Call.unfailing_bind (unfailing_storeAll hreq.bin) (fun _ => ?_) r e)
    refine Call.unfailing_bind (unfailing_storeAll hreq.searchBin) fun _ => ?_
    exact unfailing_storeAll hreq.searchInt
  · obtain ⟨e', h⟩ := setExternal_of_not_owner ho req
    rw [h]

theorem mapM_ok {f : α → Except ErrorType β} {l : List α} (h : ∀ a ∈ l, ∃ b, f a = .ok b) :
    ∃ bs, l.mapM f = .ok bs := by
  induction l with
  | nil => exact ⟨[], rfl⟩
  | cons x l ih =>
    obtain ⟨b, hb⟩ := h x List.mem_cons_self
    obtain ⟨bs, hbs⟩ := ih fun a ha => h a (List.mem_cons_of_mem _ ha)
    exact ⟨b :: bs, by rw [List.mapM_cons, hb, hbs]; rfl⟩

theorem setPasswordConfig_unfailing {newGroups : List UInt8} {gc : RoomGroupPasswordConfig}
    (h : ∃ i, Uint8.getVerifiedOpt gc.groupId = .ok i) :
    Call.Unfailing (setPasswordConfig newGroups gc) := by
  obtain ⟨i, hi⟩ := h
  refine Call.unfailing_bind (Call.unfailing_ofExcept hi) fun groupId => ?_
  refine Call.unfailing_bind Call.unfailing_read fun room => ?_
  refine Call.unfailing_ite (Call.unfailing_pure _) ?_
  refine Call.unfailing_bind (Call.unfailing_unwrap _ _) fun g => ?_
  refine Call.unfailing_ite ?_ (Call.unfailing_pure _)
  exact Call.unfailing_bind (Call.unfailing_modify _) fun _ => Call.unfailing_pure _

theorem setFlagAttr_unfailing (req : SetRoomDataInternalRequest) :
    Call.Unfailing (setFlagAttr req) := by
  refine Call.unfailing_bind Call.unfailing_read fun room => ?_
  refine Call.unfailing_ite ?_ (Call.unfailing_pure _)
  exact Call.unfailing_bind (Call.unfailing_modify _) fun _ => Call.unfailing_pure _

theorem setPasswordSlotMask_unfailing (req : SetRoomDataInternalRequest) :
    Call.Unfailing (setPasswordSlotMask req) := by
  refine Call.unfailing_bind Call.unfailing_read fun room => ?_
  split
  · refine Call.unfailing_ite ?_ (Call.unfailing_pure _)
    exact Call.unfailing_bind (Call.unfailing_modify _) fun _ => Call.unfailing_pure _
  · exact Call.unfailing_pure _

theorem setOwnerSuccession_unfailing
    (h : ∀ i ∈ req.ownerPrivilegeRank, ∃ mid, i.getVerified = .ok mid) :
    Call.Unfailing (setOwnerSuccession req) := by
  obtain ⟨succession, hs⟩ := mapM_ok h
  refine Call.unfailing_ite (Call.unfailing_pure _) ?_
  refine Call.unfailing_bind (Call.unfailing_ofExcept hs) fun l => ?_
  refine Call.unfailing_bind Call.unfailing_read fun room => ?_
  refine Call.unfailing_ite ?_ (Call.unfailing_pure _)
  exact Call.unfailing_bind (Call.unfailing_modify _) fun _ => Call.unfailing_pure _

theorem setInternalAsOwner_unfailing (h : OwnerConverts req) :
    Call.Unfailing (setInternalAsOwner req) := by
  refine Call.unfailing_bind (setFlagAttr_unfailing req) fun _ => ?_
  refine Call.unfailing_bind (Call.unfailing_foldlM (fun _ gc hgc => ?_) []) fun _ => ?_
  · exact setPasswordConfig_unfailing (h.groups gc hgc)
  refine Call.unfailing_bind (setPasswordSlotMask_unfailing req) fun _ => ?_
  exact Call.unfailing_bind (setOwnerSuccession_unfailing h.ranks) fun _ => Call.unfailing_pure _

theorem setBinAttrInternal_unfailing {memberId : UInt16} {ids : List Uint16} {p : BinAttr}
    (h : ∃ a : RoomBinAttr 256, RoomBinAttr.fromProtobuf p = .ok a) :
    Call.Unfailing (setBinAttrInternal memberId now ids p) := by
  obtain ⟨a, ha⟩ := h
  have hattr : RoomBinAttrInternal.fromProtobuf p memberId now = .ok ⟨now, memberId, a⟩ := by
    rw [RoomBinAttrInternal.fromProtobuf, ha]
    rfl
  refine Call.unfailing_bind (Call.unfailing_ofExcept hattr) fun _ => ?_
  refine Call.unfailing_ite (Call.unfailing_pure _) ?_
  exact Call.unfailing_bind (Call.unfailing_modify _) fun _ => Call.unfailing_pure _

theorem setInternal_err (hattrs : userId ∈ r.getRoomUserIds → ∀ p ∈ req.roomBinAttrInternal,
      ∃ a : RoomBinAttr 256, RoomBinAttr.fromProtobuf p = .ok a)
    (howner : r.IsOwner userId → OwnerConverts req)
    (he : (setInternal req userId now r).1 = .err e) : (setInternal req userId now r).2 = r := by
  cases hm : r.memberOf userId with
  | none => rw [setInternal_of_stranger hm]
  | some mid =>
    obtain ⟨u, hu, hid⟩ := memberOf_some hm
    have hpart : Call.Unfailing
        (if r.owner = mid then setInternalAsOwner req else pure (false, []) : RoomCall _) := by
      by_cases ho : r.owner = mid
      · rw [if_pos ho]
        exact setInternalAsOwner_unfailing (howner (by rw [IsOwner, hm, ho]))
      · rw [if_neg ho]
        exact Call.unfailing_pure _
    rw [setInternal, Call.read_bind_run, getMemberId_some hm,
      Call.bind_ok (Call.ofExcept_ok mid r)] at he
    refine absurd he (Call.unfailing_bind hpart (fun _ => ?_) r e)
    refine Call.unfailing_bind (Call.unfailing_foldlM (fun _ p hp => ?_) []) fun _ => ?_
    · exact setBinAttrInternal_unfailing
        (hattrs (mem_getRoomUserIds.mpr ⟨mid, u, hu, hid⟩) p hp)
    refine Call.unfailing_ite ?_ (Call.unfailing_pure _)
    refine Call.unfailing_bind Call.unfailing_read fun _ => ?_
    exact Call.unfailing_bind (Call.unfailing_unwrap _ _) fun _ => Call.unfailing_pure _

theorem setMember_err {req : SetRoomMemberDataInternalRequest}
    (hattr : Uint8.getVerifiedOpt req.teamId = .ok 0 ∨
      ∀ p, req.roomMemberBinAttrInternal = [p] →
        ∃ a : RoomBinAttr 128, RoomBinAttr.fromProtobuf p = .ok a)
    (he : (setMember req userId now r).1 = .err e) : (setMember req userId now r).2 = r := by
  rcases setMember_run req userId now r with ⟨e', h⟩ | ⟨-, target, u, hu, -, h⟩
  · rw [h]
  · rw [h] at he ⊢
    have hstep := setMemberData_step hu req userId now
    generalize setMemberData req userId now target u r = res at hstep he
    cases hstep with
    | refused e' => rfl
    | malformed p e' teamId hp hbad ht h0 =>
      rcases hattr with hteam | hattr
      · rw [hteam] at ht
        exact absurd (Except.ok.inj ht).symm h0
      · obtain ⟨a, ha⟩ := hattr p hp
        rw [RoomMemberBinAttr.fromProtobuf, ha] at hbad
        cases hbad
    | quiet => rfl
    | stored o teamId memberAttr herr hnone => exact absurd he (herr e)

end Room

/-! ## 2. Updates that fail -/

/-- **What a setter stores converts**: the attributes it would store, and for an owner the group ids
    and the ranks; a member's attribute only where a team is named, which is stored before it. -/
def RoomOp.Converts (r : Room) : RoomOp → Prop
  | .setRoomdataExternal _ req userId => r.IsOwner userId → Room.ExternalConverts req
  | .setRoomdataInternal _ req userId _ =>
    (userId ∈ r.getRoomUserIds → ∀ p ∈ req.roomBinAttrInternal,
      ∃ a : RoomBinAttr 256, RoomBinAttr.fromProtobuf p = .ok a) ∧
    (r.IsOwner userId → Room.OwnerConverts req)
  | .setRoommemberdataInternal _ req _ _ =>
    Uint8.getVerifiedOpt req.teamId = .ok 0 ∨ ∀ p, req.roomMemberBinAttrInternal = [p] →
      ∃ a : RoomBinAttr 128, RoomBinAttr.fromProtobuf p = .ok a
  | _ => False

def oneByteAttr (id : UInt32) : BinAttr := ⟨some ⟨id⟩, [1]⟩

def describeRoomForTwo (userId : UserId) (attrs : List BinAttr) : RoomOp :=
  .setRoomdataExternal zeroComId ⟨1, [], [], attrs⟩ userId

end Rpcn
