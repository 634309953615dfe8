/-
  File:      Rpcn/Gui/Capacity.lean
  Subject:   HOW MANY MEMBERS A GUI ROOM HAS, AND WHO OWNS IT, over whole runs.

  Both are properties of one room, kept or not by each way a request can change it
  (`GuiChange.all`).
-/
import Rpcn.Gui.Consistency

namespace Rpcn

open Lib Np2Structs HashMap

variable (members : HashMap UserId GuiRoomMember) (u : UserId) {m m' : GuiRoomManager}
  {op : GuiOp} {new : Option GuiRoomId} {roomId : GuiRoomId} {cinfo : ClientInfo} {room : GuiRoom}

variable (userId : UserId)

namespace GuiRoomManager

/-! ## 1. Properties of single rooms -/

theorem GuiChange.all {P : GuiRoom → Prop} (hc : GuiChange m op new m') (h : m.rooms.All P)
    (hopen : ∀ (cinfo : ClientInfo) (room : GuiRoom),
      room.members = (∅ : HashMap UserId GuiRoomMember).insert cinfo.userId
        (GuiRoomMember.fromClientinfo cinfo true) → P room)
    (hadm : ∀ (roomId : GuiRoomId) (cinfo : ClientInfo) (room room' : GuiRoom),
      m.rooms.get? roomId = some room → m.target op = some (roomId, cinfo) → Tested room op →
      SameRoom room room' → room'.members =
        room.members.insert cinfo.userId (GuiRoomMember.fromClientinfo cinfo false) →
      P room → P room')
    (hdepart : ∀ (userId : UserId) (room room' : GuiRoom) (memberLeft : GuiRoomMember),
      room.members.get? userId = some memberLeft → SameRoom room room' →
      Successor room userId memberLeft room'.members → P room → P room')
    (hcrew : ∀ room room' : GuiRoom, SameCrew room room' → P room → P room') : m'.rooms.All P := by
  cases hc with
  | quiet => exact h
  | opened _ comId cinfo roomId room _ _ hmem _ => exact h.insert roomId (hopen cinfo room hmem)
  | admitted _ cinfo roomId room room' hr ht htest hsame hmem =>
    exact h.insert roomId (hadm roomId cinfo room room' hr ht htest hsame hmem (h _ _ hr))
  | departed roomId cinfo _ _ room room' memberLeft hr hm hsame hmem _ =>
    exact h.insert roomId (hdepart cinfo.userId room room' memberLeft hm hsame hmem (h _ _ hr))
  | ended roomId _ _ _ room _ _ _ hrooms _ _ =>
    rw [hrooms]
    exact h.remove roomId
  | touched _ roomId room room' hr hsame _ =>
    exact h.insert roomId (hcrew room room' hsame (h _ _ hr))

theorem GuiChange.admits (hc : GuiChange m op new m') (ht : m.target op = some (roomId, cinfo))
    (hr : m.rooms.get? roomId = some room) (htest : Tested room op) :
    ∃ room', m'.rooms.get? roomId = some room' ∧ SameRoom room room' ∧ room'.members =
      room.members.insert cinfo.userId (GuiRoomMember.fromClientinfo cinfo false) := by
  cases hc with
  | quiet _ hq => exact absurd htest (hq roomId cinfo room ht hr)
  | opened _ _ _ _ _ _ _ _ ht' =>
    rw [ht] at ht'
    cases ht'
  | admitted _ cinfo' roomId' room₀ room' hr' ht' _ hsame hmem =>
    rw [ht] at ht'
    obtain ⟨rfl, rfl⟩ := Prod.mk.inj (Option.some.inj ht')
    obtain rfl := Option.some.inj (hr.symm.trans hr')
    exact ⟨room', get?_entered m _ room' _, hsame, hmem⟩
  | departed => cases ht
  | ended => cases ht
  | touched _ _ _ _ _ _ ht' =>
    rw [ht] at ht'
    cases ht'

theorem target_tested (ht : m.target op = some (roomId, cinfo))
    (hr : m.rooms.get? roomId = some room) (hjoin : ∀ i c, op = .joinRoomGui i c → Tested room op) :
    Tested room op := by
  cases op with
  | joinRoomGui i c => exact hjoin i c rfl
  | quickmatchGui comId req c order =>
    obtain ⟨r, hr', hp⟩ := searchRooms_some (foundFor_some ht)
    rw [Option.some.inj (hr.symm.trans hr')]
    exact hp
  | searchJoinGui comId req c order =>
    obtain ⟨r, hr', hp⟩ := searchRooms_some (foundFor_some ht)
    rw [Option.some.inj (hr.symm.trans hr')]
    exact hp
  | _ => cases ht

/-! ## 2. The limit -/

/-- A room is not over its slots; its owner is in it in any case. -/
def WithinSlots (room : GuiRoom) : Prop := room.members.len ≤ max 1 room.totalSlots.toNat

/-- What a request does not test of the room it found, and the limit needs: a quick match, that a
    place is left; the other two, that there are places at all. -/
def PlaceLeft (room : GuiRoom) : GuiOp → Prop
  | .quickmatchGui _ _ _ _ => room.members.len < room.totalSlots.toNat
  | _ => room.totalSlots ≠ 0

/-- **The condition on a request** under which no room gets over its slots. -/
def CapacityGuard (m : GuiRoomManager) (op : GuiOp) : Prop :=
  ∀ roomId cinfo room, m.target op = some (roomId, cinfo) → m.rooms.get? roomId = some room →
    cinfo.userId ∉ room.members.keys → PlaceLeft room op

theorem toNat_ne_zero {n : UInt32} : n ≠ 0 ↔ n.toNat ≠ 0 := not_congr UInt32.toNat_inj.symm

theorem Tested.len_ne (h : Tested room op) :
    (∃ comId req cinfo order, op = .quickmatchGui comId req cinfo order) ∨
      room.members.len ≠ room.totalSlots.toNat := by
  cases op with
  | joinRoomGui => exact Or.inr h.1
  | quickmatchGui comId req cinfo order => exact Or.inl ⟨comId, req, cinfo, order, rfl⟩
  | searchJoinGui comId req cinfo order =>
    refine Or.inr fun e => ?_
    have h : room.isMatch req.conds true = true := h
    unfold GuiRoom.isMatch at h
    split at h
    · cases h
    · rw [if_pos (by simpa using e)] at h
      cases h
  | _ => cases h

theorem PlaceLeft.lt (hp : PlaceLeft room op) (htest : Tested room op) (hin : WithinSlots room) :
    room.members.len < room.totalSlots.toNat := by
  rcases htest.len_ne with ⟨comId, req, cinfo, order, rfl⟩ | hne
  · exact hp
  · unfold WithinSlots at hin
    cases op with
    | quickmatchGui => exact hp
    | joinRoomGui =>
      have h0 := toNat_ne_zero.mp hp
      omega
    | searchJoinGui =>
      have h0 := toNat_ne_zero.mp hp
      omega
    | _ => cases htest

theorem withinSlots_change (hc : GuiChange m op new m') (h : m.rooms.All WithinSlots)
    (hg : CapacityGuard m op) : m'.rooms.All WithinSlots := by
  refine hc.all h ?_ ?_ ?_ ?_
  · intro cinfo room hmem
    unfold WithinSlots
    rw [hmem, len_insert_new _ (get?_empty _)]
    exact le_max_left 1 _
  · intro roomId cinfo room room' hr ht htest hsame hmem hin
    unfold WithinSlots at hin ⊢
    rw [hmem, hsame.totalSlots]
    by_cases hnew : cinfo.userId ∈ room.members.keys
    · obtain ⟨member, hm⟩ := mem_keys.mp hnew
      rw [len_insert_old _ hm]
      exact hin
    · have hlt := (hg roomId cinfo room ht hr hnew).lt htest hin
      have := room.members.len_insert_le cinfo.userId (GuiRoomMember.fromClientinfo cinfo false)
      omega
  · intro userId room room' memberLeft hm hsame hmem hin
    unfold WithinSlots at hin ⊢
    have hle : room'.members.len ≤ room.members.len := by
      unfold len
      rw [hmem.keys]
      exact Finset.card_erase_le
    rw [hsame.totalSlots]
    exact le_trans hle hin
  · intro room room' hcrew hin
    unfold WithinSlots at hin ⊢
    rw [hcrew.members, hcrew.totalSlots]
    exact hin

theorem capacityGuard_of_change (hl : Listed m) (hc : GuiChange m op new m')
    (h' : m'.rooms.All WithinSlots) : CapacityGuard m op := by
  intro roomId cinfo room ht hr hnew
  have hpos : 0 < room.members.len := Finset.card_pos.mpr (hl.nonempty hr)
  -- a room the user is put into has one member more, and there were some before
  have hadmitted : Tested room op → room.members.len < room.totalSlots.toNat := by
    intro htest
    obtain ⟨room', hr', hsame, hmem⟩ := hc.admits ht hr htest
    have hin := h' _ _ hr'
    unfold WithinSlots at hin
    rw [hmem, hsame.totalSlots, len_insert_new _ (notMem_keys.mp hnew)] at hin
    omega
  cases op with
  | quickmatchGui =>
    exact hadmitted (target_tested ht hr fun _ _ e => by cases e)
  | searchJoinGui =>
    have := hadmitted (target_tested ht hr fun _ _ e => by cases e)
    exact toNat_ne_zero.mpr (by omega)
  | joinRoomGui i c =>
    refine toNat_ne_zero.mpr fun h0 => ?_
    obtain ⟨rfl, rfl⟩ := Prod.mk.inj (Option.some.inj ht)
    have := hadmitted ⟨by omega, hnew⟩
    omega
  | _ => cases ht

/-! ## 3. The owner -/

def Owns (members : HashMap UserId GuiRoomMember) (userId : UserId) : Prop :=
  ∃ member, members.get? userId = some member ∧ member.owner = true

theorem owns_insert (member : GuiRoomMember) :
    Owns (members.insert userId member) u ↔
      if u = userId then member.owner = true else Owns members u := by
  unfold Owns
  rw [get?_insert]
  by_cases e : u = userId
  · simp [e]
  · simp [e]

theorem owns_remove : Owns (members.remove userId) u ↔ u ≠ userId ∧ Owns members u := by
  unfold Owns
  rw [get?_remove]
  by_cases e : u = userId
  · simp [e]
  · simp [e]

def SingleOwner (room : GuiRoom) : Prop := ∃! userId, Owns room.members userId

/-- **The condition on a request** under which every room keeps its owner: nobody is put into a room
    they own by a search. A join tests that itself. -/
def OwnerGuard (m : GuiRoomManager) (op : GuiOp) : Prop :=
  ∀ roomId cinfo room, m.target op = some (roomId, cinfo) → m.rooms.get? roomId = some room →
    Tested room op → ¬ Owns room.members cinfo.userId

theorem SingleOwner.successor (h : SingleOwner room) {userId : UserId}
    {memberLeft : GuiRoomMember} (hm : room.members.get? userId = some memberLeft)
    {members : HashMap UserId GuiRoomMember} (hs : Successor room userId memberLeft members) :
    ∃! u, Owns members u := by
  obtain ⟨o, ho, huniq⟩ := h
  cases hs with
  | none hno =>
    refine ⟨o, (owns_remove _ _ _).mpr ⟨fun e => ?_, ho⟩, fun u hu =>
      huniq u ((owns_remove _ _ _).mp hu).2⟩
    obtain ⟨member, hget, hown⟩ := ho
    rw [e, hm] at hget
    rw [← Option.some.inj hget, hno] at hown
    cases hown
  | random s member howner hget =>
    refine ⟨s, ?_, fun u hu => ?_⟩
    · show Owns _ s
      rw [owns_insert, if_pos rfl]
    · -- whoever else were an owner would have been one before, beside the one who left
      have hu : Owns ((room.members.remove userId).insert s _) u := hu
      rw [owns_insert] at hu
      by_contra e
      rw [if_neg e, owns_remove] at hu
      exact hu.1 ((huniq u hu.2).trans (huniq userId ⟨memberLeft, hm, howner⟩).symm)

theorem singleOwner_change (hc : GuiChange m op new m') (h : m.rooms.All SingleOwner)
    (hg : OwnerGuard m op) : m'.rooms.All SingleOwner := by
  refine hc.all h ?_ ?_ ?_ ?_
  · intro cinfo room hmem
    unfold SingleOwner
    rw [hmem]
    refine ⟨cinfo.userId, ?_, fun u hu => ?_⟩
    · show Owns _ _
      rw [owns_insert, if_pos rfl]
      rfl
    · by_contra e
      have hu : Owns ((∅ : HashMap UserId GuiRoomMember).insert cinfo.userId _) u := hu
      rw [owns_insert, if_neg e] at hu
      obtain ⟨member, hget, _⟩ := hu
      cases hget
  · intro roomId cinfo room room' hr ht htest hsame hmem hone
    have hnot := hg roomId cinfo room ht hr htest
    unfold SingleOwner
    rw [hmem]
    obtain ⟨o, ho, huniq⟩ := hone
    refine ⟨o, ?_, fun u hu => ?_⟩
    · have hne : o ≠ cinfo.userId := fun e => hnot (e ▸ ho)
      show Owns _ o
      rw [owns_insert, if_neg hne]
      exact ho
    · have hu : Owns (room.members.insert cinfo.userId _) u := hu
      rw [owns_insert] at hu
      split at hu
      · cases hu
      · exact huniq u hu
  · intro userId room room' memberLeft hm hsame hmem hone
    exact hone.successor hm hmem
  · intro room room' hcrew hone
    unfold SingleOwner
    rw [hcrew.members]
    exact hone

theorem ownerGuard_of_change (h : m.rooms.All SingleOwner) (hc : GuiChange m op new m')
    (h' : m'.rooms.All SingleOwner) : OwnerGuard m op := by
  intro roomId cinfo room ht hr htest howns
  obtain ⟨room', hr', hsame, hmem⟩ := hc.admits ht hr htest
  obtain ⟨u, hu, _⟩ := h' _ _ hr'
  have hu : Owns room'.members u := hu
  rw [hmem, owns_insert] at hu
  split at hu
  · cases hu
  · rename_i hne
    obtain ⟨o, _, huniq⟩ := h _ _ hr
    exact hne ((huniq u hu).trans (huniq cinfo.userId howns).symm)

end GuiRoomManager

/-! ## 4. Over whole runs -/

theorem gui_change_of_run {es : List (GuiOp × GuiOutcome × Option GuiRoomId)}
    (h : guiSystem.Run es m) (hp : op.Possible m) :
    GuiRoomManager.GuiChange m op (op.generated m) (op.call m).2 :=
  GuiRoomManager.call_change (listed_of_run h) op hp

/-- **Capacity.** In every state of a run whose requests meet `CapacityGuard`, every stored room has
    at most `max 1 total_slots` members; and a further request keeps that exactly when it meets the
    condition. -/
theorem guiRoom_within_slots {es : List (GuiOp × GuiOutcome × Option GuiRoomId)}
    {m : GuiRoomManager} (h : (guiSystem.restrict GuiRoomManager.CapacityGuard).Run es m) :
    (∀ (roomId : GuiRoomId) (room : GuiRoom), m.rooms.get? roomId = some room →
      room.members.len ≤ max 1 room.totalSlots.toNat) ∧
    ∀ op : GuiOp, op.Possible m →
      ((∀ (roomId : GuiRoomId) (room : GuiRoom), (op.call m).2.rooms.get? roomId = some room →
        room.members.len ≤ max 1 room.totalSlots.toNat) ↔ GuiRoomManager.CapacityGuard m op) := by
  have hall : m.rooms.All GuiRoomManager.WithinSlots := by
    refine h.history (I := fun _ m => m.rooms.All GuiRoomManager.WithinSlots) ?_ ?_
    · exact HashMap.All.empty _
    · intro es m op hrun hI hen
      exact GuiRoomManager.withinSlots_change (gui_change_of_run hrun.unrestrict hen.1) hI hen.2
  refine ⟨hall, fun op hp => ?_⟩
  have hc := gui_change_of_run h.unrestrict hp
  exact ⟨GuiRoomManager.capacityGuard_of_change (listed_of_run h.unrestrict) hc,
    GuiRoomManager.withinSlots_change hc hall⟩

/-- **Single ownership.** In every state of a run whose requests meet `OwnerGuard`, every stored room
    has exactly one member with the owner's flag; and a further request keeps that exactly when it
    meets the condition. -/
theorem guiRoom_single_owner {es : List (GuiOp × GuiOutcome × Option GuiRoomId)}
    {m : GuiRoomManager} (h : (guiSystem.restrict GuiRoomManager.OwnerGuard).Run es m) :
    (∀ (roomId : GuiRoomId) (room : GuiRoom), m.rooms.get? roomId = some room →
      ∃! userId, ∃ member, room.members.get? userId = some member ∧ member.owner = true) ∧
    ∀ op : GuiOp, op.Possible m →
      ((∀ (roomId : GuiRoomId) (room : GuiRoom), (op.call m).2.rooms.get? roomId = some room →
        ∃! userId, ∃ member, room.members.get? userId = some member ∧ member.owner = true) ↔
      GuiRoomManager.OwnerGuard m op) := by
  have hall : m.rooms.All GuiRoomManager.SingleOwner := by
    refine h.history (I := fun _ m => m.rooms.All GuiRoomManager.SingleOwner) ?_ ?_
    · exact HashMap.All.empty _
    · intro es m op hrun hI hen
      exact GuiRoomManager.singleOwner_change (gui_change_of_run hrun.unrestrict hen.1) hI hen.2
  refine ⟨hall, fun op hp => ?_⟩
  have hc := gui_change_of_run h.unrestrict hp
  exact ⟨GuiRoomManager.ownerGuard_of_change hall hc, GuiRoomManager.singleOwner_change hc hall⟩

/-! ### Concrete runs -/

def quickmatchOfTwo (userId : UserId) (order : List GuiRoomId) : GuiOp :=
  .quickmatchGui letterComId ⟨[], 2⟩ (guest userId) order

def searchAny (userId : UserId) (order : List GuiRoomId) : GuiOp :=
  .searchJoinGui letterComId ⟨[], []⟩ (guest userId) order

theorem guiRoom_within_slots_joined :
    ∃ es, (guiSystem.restrict GuiRoomManager.CapacityGuard).Run es (withGuiRoom 4) ∧
      GuiRoomManager.CapacityGuard (withGuiRoom 4) (.joinRoomGui firstRoomId (guest 2)) ∧
      ∀ (roomId : GuiRoomId) (room : GuiRoom),
        ((GuiOp.joinRoomGui firstRoomId (guest 2)).call (withGuiRoom 4)).2.rooms.get? roomId =
          some room → room.members.len ≤ max 1 room.totalSlots.toNat := by
  have hopen : (guiSystem.restrict GuiRoomManager.CapacityGuard).enabled GuiRoomManager.new
      (openGuiRoom 4) := ⟨trivial, fun _ _ _ ht => by cases ht⟩
  have hrun : (guiSystem.restrict GuiRoomManager.CapacityGuard).Run
      [(openGuiRoom 4, ((openGuiRoom 4).call GuiRoomManager.new).1, some firstRoomId)]
      (withGuiRoom 4) := .step (openGuiRoom 4) .start hopen
  have hguard : GuiRoomManager.CapacityGuard (withGuiRoom 4)
      (.joinRoomGui firstRoomId (guest 2)) := by
    intro roomId cinfo room ht hr _
    obtain ⟨rfl, rfl⟩ := Prod.mk.inj (Option.some.inj ht)
    have hall : ((withGuiRoom 4).rooms.get? firstRoomId).all (·.totalSlots ≠ 0) = true := by
      decide
    rw [hr, Option.all_some, decide_eq_true_eq] at hall
    exact hall
  exact ⟨_, hrun, hguard,
    ((guiRoom_within_slots hrun).2 (.joinRoomGui firstRoomId (guest 2)) trivial).mpr hguard⟩

def withFullQuickmatch : GuiRoomManager :=
  ((GuiOp.joinRoomGui firstRoomId (guest 2)).call
    ((quickmatchOfTwo 1 []).call GuiRoomManager.new).2).2

/-- **The quick match that overfills**: the room is full but was never hidden, since no quick match
    filled it, and so guest 3 is the third member of two. -/
theorem quickmatch_overfills :
    ∃ es m room, guiSystem.Run es m ∧ (∀ e ∈ es, e.2.1.isOk = true) ∧
      m.rooms.get? firstRoomId = some room ∧
      ¬ room.members.len ≤ max 1 room.totalSlots.toNat := by
  have hstart : (quickmatchOfTwo 1 []).Possible GuiRoomManager.new := ⟨List.nodup_nil, rfl⟩
  have hlast : (quickmatchOfTwo 3 [firstRoomId]).Possible withFullQuickmatch :=
    ⟨List.nodup_singleton _, by decide⟩
  have hjoin : (GuiOp.joinRoomGui firstRoomId (guest 2)).Possible
      ((quickmatchOfTwo 1 []).call GuiRoomManager.new).2 := trivial
  have hrun := System.Run.step (M := guiSystem) (quickmatchOfTwo 3 [firstRoomId])
    (.step (GuiOp.joinRoomGui firstRoomId (guest 2)) (.step (quickmatchOfTwo 1 []) .start hstart)
      hjoin) hlast
  have hsome : (((quickmatchOfTwo 3 [firstRoomId]).call withFullQuickmatch).2.rooms.get?
      firstRoomId).any (fun r => ¬ r.members.len ≤ max 1 r.totalSlots.toNat) = true := by decide
  obtain ⟨room, hr, hover⟩ := (Option.any_eq_true _ _).mp hsome
  refine ⟨_, _, room, hrun, ?_, hr, of_decide_eq_true hover⟩
  intro e he
  simp only [List.nil_append, List.cons_append, List.mem_cons, List.not_mem_nil, or_false] at he
  rcases he with rfl | rfl | rfl <;> rfl

theorem guiRoom_single_owner_searched :
    ∃ es, (guiSystem.restrict GuiRoomManager.OwnerGuard).Run es (withGuiRoom 4) ∧
      GuiRoomManager.OwnerGuard (withGuiRoom 4) (searchAny 2 [firstRoomId]) ∧
      ∀ (roomId : GuiRoomId) (room : GuiRoom),
        ((searchAny 2 [firstRoomId]).call (withGuiRoom 4)).2.rooms.get? roomId = some room →
        ∃! userId, ∃ member, room.members.get? userId = some member ∧ member.owner = true := by
  have hopen : (guiSystem.restrict GuiRoomManager.OwnerGuard).enabled GuiRoomManager.new
      (openGuiRoom 4) := ⟨trivial, fun _ _ _ ht => by cases ht⟩
  have hrun : (guiSystem.restrict GuiRoomManager.OwnerGuard).Run
      [(openGuiRoom 4, ((openGuiRoom 4).call GuiRoomManager.new).1, some firstRoomId)]
      (withGuiRoom 4) := .step (openGuiRoom 4) .start hopen
  have hguard : GuiRoomManager.OwnerGuard (withGuiRoom 4) (searchAny 2 [firstRoomId]) := by
    intro roomId cinfo room ht hr _ howns
    have htarget : (withGuiRoom 4).target (searchAny 2 [firstRoomId]) =
        some (firstRoomId, guest 2) := by decide
    rw [htarget] at ht
    obtain ⟨rfl, rfl⟩ := Prod.mk.inj (Option.some.inj ht)
    have hall : ((withGuiRoom 4).rooms.get? firstRoomId).all
        (fun r => r.members.get? (guest 2).userId = none) = true := by decide
    rw [hr, Option.all_some, decide_eq_true_eq] at hall
    obtain ⟨member, hget, _⟩ := howns
    rw [hall] at hget
    cases hget
  have hposs : (searchAny 2 [firstRoomId]).Possible (withGuiRoom 4) :=
    ⟨List.nodup_singleton _, by decide⟩
  exact ⟨_, hrun, hguard, ((guiRoom_single_owner hrun).2 _ hposs).mpr hguard⟩

/-- **The owner who searches their own room**: guest 1 is admitted again, as a member without the
    flag, before the assertion panics; the room is left without an owner. -/
theorem search_drops_owner :
    ∃ es m room, guiSystem.Run es m ∧ m.rooms.get? firstRoomId = some room ∧
      ¬ ∃! userId, ∃ member, room.members.get? userId = some member ∧ member.owner = true := by
  have hlast : (searchAny 1 [firstRoomId]).Possible (withGuiRoom 4) :=
    ⟨List.nodup_singleton _, by decide⟩
  have hrun := System.Run.step (M := guiSystem) (searchAny 1 [firstRoomId])
    (.step (openGuiRoom 4) .start trivial) hlast
  have hsome : (((searchAny 1 [firstRoomId]).call (withGuiRoom 4)).2.rooms.get? firstRoomId).any
      (fun r => ∀ u ∈ r.members.keys, (r.members.get? u).all (fun x => !x.owner) = true) = true := by
    decide
  obtain ⟨room, hr, hnone⟩ := (Option.any_eq_true _ _).mp hsome
  refine ⟨_, _, room, hrun, hr, ?_⟩
  rintro ⟨u, ⟨member, hget, howner⟩, _⟩
  have h := of_decide_eq_true hnone u (HashMap.mem_keys.mpr ⟨member, hget⟩)
  rw [hget, Option.all_some, howner] at h
  cases h

end Rpcn
