/-
  File:      Rpcn/Gui/Spec.lean
  Subject:   WHAT EACH REQUEST CAN DO TO THE GUI ROOM MANAGER.

  `GuiChange` says once what a request can do to the manager: nothing, open a room, admit a user to
  a stored room, let a member go, end a room, or touch a room without moving anybody. The results
  about runs are case analyses over it.
-/
import Mathlib
import Rpcn.Gui.Manager

namespace Rpcn

open Lib Np2Structs HashMap GuiRoom Call

variable {comId : ComId} {α : Type} {p : GuiRoom → Bool} {op : GuiOp}

variable (room : GuiRoom) {m : GuiRoomManager} {roomId : GuiRoomId} {order : List GuiRoomId}

namespace GuiRoomManager

/-! ## 1. The building blocks -/

/-- The manager after a user was put into a stored room, which is now `room`. -/
def entered (m : GuiRoomManager) (roomId : GuiRoomId) (room : GuiRoom) (userId : UserId) :
    GuiRoomManager :=
  { m.putRoom roomId room with userRooms := m.userRooms.addTo userId roomId }

def opened (m : GuiRoomManager) (comId : ComId) (roomId : GuiRoomId) (room : GuiRoom)
    (userId : UserId) : GuiRoomManager where
  curRoomId := m.curRoomId + 1
  rooms := m.rooms.insert roomId room
  comidRooms := m.comidRooms.addTo comId roomId
  userRooms := m.userRooms.addTo userId roomId

/-- The manager after a user left a room, which is now `room`. -/
def departed (m : GuiRoomManager) (roomId : GuiRoomId) (room : GuiRoom) (userId : UserId) :
    GuiRoomManager :=
  { m.putRoom roomId room with userRooms := m.userRooms.dropFrom userId roomId }

theorem entered_putRoom (m : GuiRoomManager) (roomId : GuiRoomId) (room room' : GuiRoom)
    (userId : UserId) : (m.entered roomId room userId).putRoom roomId room' =
      m.entered roomId room' userId := by
  simp only [entered, putRoom, insert_insert]

theorem opened_putRoom (m : GuiRoomManager) (comId : ComId) (roomId : GuiRoomId)
    (room room' : GuiRoom) (userId : UserId) :
    (m.opened comId roomId room userId).putRoom roomId room' =
      m.opened comId roomId room' userId := by
  simp only [opened, putRoom, insert_insert]

@[simp] theorem get?_entered (m : GuiRoomManager) (roomId : GuiRoomId) (room : GuiRoom)
    (userId : UserId) : (m.entered roomId room userId).rooms.get? roomId = some room := by
  simp [entered, putRoom]

@[simp] theorem get?_opened (m : GuiRoomManager) (comId : ComId) (roomId : GuiRoomId)
    (room : GuiRoom) (userId : UserId) :
    (m.opened comId roomId room userId).rooms.get? roomId = some room := by
  simp [opened]

/-- How `add_member_to_room` ends: by its assertion when the room was on the user's list. -/
def entryOutcome {α : Type} (m : GuiRoomManager) (roomId : GuiRoomId) (userId : UserId) (a : α) :
    Outcome ErrorType GuiPanic α :=
  if roomId ∈ m.userRooms.setAt userId then .panic .alreadyMember else .ok a

theorem entry_bind {β : Type} {c : GuiCall α} {f : α → GuiCall β} {s : GuiRoomManager}
    {userId : UserId} {a : α} (h : c m = (m.entryOutcome roomId userId a, s))
    {P : GuiRoomManager → Prop} (hs : P s) (hf : P (f a s).2) : P ((c >>= f) m).2 := by
  unfold entryOutcome at h
  split at h
  · rw [bind_panic h]
    exact hs
  · rw [bind_ok h]
    exact hf

theorem readRoom_run {room : GuiRoom} (hr : m.rooms.get? roomId = some room) :
    readRoom roomId m = (.ok room, m) := by
  simp only [readRoom, bind_run, read_run, hr, unwrap_some]

theorem addMemberToRoom_run {m : GuiRoomManager} {roomId : GuiRoomId} {room : GuiRoom}
    (hr : m.rooms.get? roomId = some room) (cinfo : ClientInfo) (owner : Bool) :
    addMemberToRoom roomId cinfo owner m = (m.entryOutcome roomId cinfo.userId (),
      m.entered roomId (room.addMember cinfo owner) cinfo.userId) := by
  unfold addMemberToRoom entryOutcome
  simp only [bind_run, read_run, hr, unwrap_some, write_run]
  by_cases h : roomId ∈ m.userRooms.setAt cinfo.userId
  · simp [h, entered]
  · simp [h, entered]

theorem generateRoomId_some (h : roomIdOf comId m.curRoomId = some roomId) :
    generateRoomId comId m = (.ok roomId, { m with curRoomId := m.curRoomId + 1 }) := by
  unfold generateRoomId
  simp only [bind_run, read_run, h, unwrap_some, write_run, pure_run]

theorem generateRoomId_none (h : roomIdOf comId m.curRoomId = none) :
    generateRoomId comId m = (.panic .roomIdSize, m) := by
  unfold generateRoomId
  simp only [bind_run, read_run, h, unwrap_none]

theorem openRoom_some (h : roomIdOf comId m.curRoomId = some roomId) (room : GuiRoom)
    (cinfo : ClientInfo) :
    openRoom comId room cinfo m = (m.entryOutcome roomId cinfo.userId roomId,
      m.opened comId roomId (room.addMember cinfo true) cinfo.userId) := by
  unfold openRoom
  rw [bind_ok (generateRoomId_some h)]
  simp only [insertRoom, bind_run, modify_run]
  rw [@addMemberToRoom_run _ _ room]
  · unfold entryOutcome
    by_cases hin : roomId ∈ m.userRooms.setAt cinfo.userId
    · simp [putRoom, hin, entered, opened, insert_insert]
    · simp [putRoom, hin, entered, opened, insert_insert]
  · simp [putRoom]

theorem openRoom_none (h : roomIdOf comId m.curRoomId = none) (room : GuiRoom)
    (cinfo : ClientInfo) : openRoom comId room cinfo m = (.panic .roomIdSize, m) := by
  unfold openRoom
  rw [bind_panic (generateRoomId_none h)]

theorem findRoom_some (h : m.findRoom p order = .ok (some roomId)) :
    ∃ room, m.rooms.get? roomId = some room ∧ p room = true ∧ roomId ∈ order := by
  induction order with
  | nil => cases h
  | cons i rest ih =>
    rw [findRoom] at h
    cases hi : m.rooms.get? i with
    | none =>
      rw [hi] at h
      cases h
    | some room =>
      rw [hi] at h
      simp only at h
      by_cases hp : p room = true
      · rw [if_pos hp] at h
        cases h
        exact ⟨room, hi, hp, List.mem_cons_self⟩
      · rw [if_neg hp] at h
        obtain ⟨room', hr', hp', hmem⟩ := ih h
        exact ⟨room', hr', hp', List.mem_cons_of_mem _ hmem⟩

theorem searchRooms_some (h : m.searchRooms comId p order = .ok (some roomId)) :
    ∃ room, m.rooms.get? roomId = some room ∧ p room = true := by
  unfold searchRooms at h
  split at h
  · cases h
  · obtain ⟨room, hr, hp, _⟩ := findRoom_some h
    exact ⟨room, hr, hp⟩

theorem completeQuickmatch_run {room : GuiRoom} (hr : m.rooms.get? roomId = some room)
    (cinfo : ClientInfo) :
    ∃ n stealth, completeQuickmatch roomId cinfo m =
      (.ok n, m.putRoom roomId { room with stealth := stealth }) := by
  unfold completeQuickmatch
  simp only [bind_run, read_run, hr, unwrap_some]
  by_cases h : room.members.len = room.totalSlots.toNat
  · simp only [if_pos h, bind_run, write_run, pure_run]
    exact ⟨_, true, rfl⟩
  · simp only [if_neg h, pure_run]
    refine ⟨none, room.stealth, ?_⟩
    have e : m.putRoom roomId room = m := by
      rw [putRoom, insert_self hr]
    exact congrArg _ e.symm

/-! ## 2. One request -/

structure SameRoom (room room' : GuiRoom) : Prop where
  communicationId : room'.communicationId = room.communicationId
  totalSlots : room'.totalSlots = room.totalSlots

structure SameCrew (room room' : GuiRoom) : Prop extends SameRoom room room' where
  members : room'.members = room.members

theorem SameCrew.refl : SameCrew room room := ⟨⟨rfl, rfl⟩, rfl⟩

theorem SameCrew.trans {a b c : GuiRoom} (h : SameCrew a b) (h' : SameCrew b c) : SameCrew a c :=
  ⟨⟨h'.communicationId.trans h.communicationId, h'.totalSlots.trans h.totalSlots⟩,
    h'.members.trans h.members⟩

theorem sameCrew_foldl {f : GuiRoom → α → GuiRoom} (hf : ∀ r a, SameCrew r (f r a)) (l : List α)
    (room : GuiRoom) : SameCrew room (l.foldl f room) := by
  induction l generalizing room with
  | nil => exact .refl room
  | cons a l ih => exact (hf room a).trans (ih (f room a))

theorem sameCrew_setAttr (attr : MatchingAttr) : SameCrew room (room.setAttr attr) := by
  unfold setAttr
  dsimp only
  split_ifs <;> exact ⟨⟨rfl, rfl⟩, rfl⟩

theorem sameCrew_takeCond (cond : MatchingSearchCondition) :
    SameCrew room (room.takeCond cond) := by
  unfold takeCond
  dsimp only
  split_ifs <;> exact ⟨⟨rfl, rfl⟩, rfl⟩

def foundFor (cinfo : ClientInfo) : Except GuiPanic (Option GuiRoomId) →
    Option (GuiRoomId × ClientInfo)
  | .ok (some roomId) => some (roomId, cinfo)
  | _ => none

theorem foundFor_some {cinfo c : ClientInfo} {r : Except GuiPanic (Option GuiRoomId)}
    (h : foundFor cinfo r = some (roomId, c)) : r = .ok (some roomId) := by
  unfold foundFor at h
  split at h
  · rw [(Prod.mk.inj (Option.some.inj h)).1]
  · cases h

/-- **Which room a request would put which user into**, as far as the state decides it: the room
    named by a join, the first match of a search. -/
def target (m : GuiRoomManager) : GuiOp → Option (GuiRoomId × ClientInfo)
  | .joinRoomGui roomId cinfo => some (roomId, cinfo)
  | .quickmatchGui comId req cinfo order =>
    foundFor cinfo (m.searchRooms comId (·.isQuickmatch req) order)
  | .searchJoinGui comId req cinfo order =>
    foundFor cinfo (m.searchRooms comId (·.isMatch req.conds true) order)
  | _ => none

def Tested (room : GuiRoom) : GuiOp → Prop
  | .joinRoomGui _ cinfo =>
    room.members.len ≠ room.totalSlots.toNat ∧ cinfo.userId ∉ room.members.keys
  | .quickmatchGui _ req _ _ => room.isQuickmatch req = true
  | .searchJoinGui _ req _ _ => room.isMatch req.conds true = true
  | _ => False

inductive Successor (room : GuiRoom) (userId : UserId) (memberLeft : GuiRoomMember) :
    HashMap UserId GuiRoomMember → Prop where
  | none (ho : memberLeft.owner = false) :
      Successor room userId memberLeft (room.members.remove userId)
  | random (s : UserId) (member : GuiRoomMember) (ho : memberLeft.owner = true)
      (hs : (room.members.remove userId).get? s = some member) :
      Successor room userId memberLeft
        ((room.members.remove userId).insert s { member with owner := true })

theorem Successor.keys {room : GuiRoom} {userId : UserId} {memberLeft : GuiRoomMember}
    {members : HashMap UserId GuiRoomMember} (h : Successor room userId memberLeft members) :
    members.keys = room.members.keys.erase userId := by
  cases h with
  | none => exact keys_remove _ _
  | random s member _ hs =>
    rw [keys_insert, Finset.insert_eq_of_mem (mem_keys.mpr ⟨member, hs⟩),
      keys_remove]

def MemberOf (m : GuiRoomManager) (userId : UserId) (roomId : GuiRoomId) : Prop :=
  ∃ room, m.rooms.get? roomId = some room ∧ userId ∈ room.members.keys

inductive GuiChange (m : GuiRoomManager) : GuiOp → Option GuiRoomId → GuiRoomManager → Prop where
  | quiet (op : GuiOp) (hq : ∀ roomId cinfo room, m.target op = some (roomId, cinfo) →
      m.rooms.get? roomId = some room → ¬ Tested room op) : GuiChange m op none m
  | opened (op : GuiOp) (comId : ComId) (cinfo : ClientInfo) (roomId : GuiRoomId) (room : GuiRoom)
      (hid : roomIdOf comId m.curRoomId = some roomId) (hcom : room.communicationId = comId)
      (hmem : room.members = (∅ : HashMap UserId GuiRoomMember).insert cinfo.userId
        (GuiRoomMember.fromClientinfo cinfo true)) (ht : m.target op = none) :
      GuiChange m op (some roomId) (m.opened comId roomId room cinfo.userId)
  | admitted (op : GuiOp) (cinfo : ClientInfo) (roomId : GuiRoomId) (room room' : GuiRoom)
      (hr : m.rooms.get? roomId = some room) (ht : m.target op = some (roomId, cinfo))
      (htest : Tested room op) (hsame : SameRoom room room')
      (hmem : room'.members =
        room.members.insert cinfo.userId (GuiRoomMember.fromClientinfo cinfo false)) :
      GuiChange m op none (m.entered roomId room' cinfo.userId)
  | departed (roomId : GuiRoomId) (cinfo : ClientInfo) (order : List UserId) (random : Nat)
      (room room' : GuiRoom) (memberLeft : GuiRoomMember) (hr : m.rooms.get? roomId = some room)
      (hm : room.members.get? cinfo.userId = some memberLeft) (hsame : SameRoom room room')
      (hmem : Successor room cinfo.userId memberLeft room'.members)
      (hne : (room.members.remove cinfo.userId).len ≠ 0) :
      GuiChange m (.leaveRoomGui roomId cinfo order random) none
        (m.departed roomId room' cinfo.userId)
  | ended (roomId : GuiRoomId) (cinfo : ClientInfo) (order : List UserId) (random : Nat)
      (room : GuiRoom) (m' : GuiRoomManager) (hr : m.rooms.get? roomId = some room)
      (hcur : m'.curRoomId = m.curRoomId) (hrooms : m'.rooms = m.rooms.remove roomId)
      (hcom : m'.comidRooms = m.comidRooms.dropFrom room.communicationId roomId)
      (husers : ∀ u, m'.userRooms.setAt u =
        if u ∈ room.members.keys then (m.userRooms.setAt u).erase roomId
        else m.userRooms.setAt u) :
      GuiChange m (.leaveRoomGui roomId cinfo order random) none m'
  | touched (op : GuiOp) (roomId : GuiRoomId) (room room' : GuiRoom)
      (hr : m.rooms.get? roomId = some room) (hcrew : SameCrew room room')
      (ht : m.target op = none) : GuiChange m op none (m.putRoom roomId room')

theorem GuiChange.idle (ht : m.target op = none) : GuiChange m op none m :=
  .quiet op fun roomId cinfo room h => by
    rw [ht] at h
    cases h

/-! ### Opening and admission -/

structure Vacant (room : GuiRoom) (comId : ComId) : Prop where
  communicationId : room.communicationId = comId
  members : room.members = ∅

theorem vacant_fromProtobuf (req : CreateRoomGuiRequest) (comId : ComId) :
    Vacant (fromProtobuf req comId) comId := by
  have h : SameCrew _ (fromProtobuf req comId) := sameCrew_foldl sameCrew_setAttr req.gameAttrs _
  exact ⟨h.communicationId, h.members⟩

theorem vacant_fromQuickmatchProtobuf (req : QuickMatchGuiRequest) (comId : ComId) :
    Vacant (fromQuickmatchProtobuf req comId) comId := by
  have h : SameCrew _ (fromQuickmatchProtobuf req comId) :=
    sameCrew_foldl sameCrew_takeCond req.conds _
  exact ⟨h.communicationId, h.members⟩

theorem GuiChange.open (hid : roomIdOf comId m.curRoomId = some roomId) {room : GuiRoom}
    (hv : Vacant room comId) (cinfo : ClientInfo) {room' : GuiRoom}
    (hcrew : SameCrew (room.addMember cinfo true) room') (ht : m.target op = none) :
    GuiChange m op (some roomId) (m.opened comId roomId room' cinfo.userId) := by
  refine .opened op comId cinfo roomId room' hid ?_ ?_ ht
  · exact hcrew.communicationId.trans hv.communicationId
  · rw [hcrew.members, addMember, hv.members]

theorem createRoomGui_opens (hid : roomIdOf comId m.curRoomId = some roomId)
    (req : CreateRoomGuiRequest) (cinfo : ClientInfo) : (createRoomGui comId req cinfo m).2 =
      m.opened comId roomId ((fromProtobuf req comId).addMember cinfo true)
        cinfo.userId := by
  have hopen := openRoom_some hid (fromProtobuf req comId) cinfo
  unfold createRoomGui
  refine entry_bind hopen (P := fun s => s = _) rfl ?_
  rw [bind_ok (readRoom_run (get?_opened m comId roomId _ cinfo.userId))]
  rfl

theorem createRoomGui_change (m : GuiRoomManager) (comId : ComId) (req : CreateRoomGuiRequest)
    (cinfo : ClientInfo) :
    GuiChange m (.createRoomGui comId req cinfo)
      ((GuiOp.createRoomGui comId req cinfo).generated m) (createRoomGui comId req cinfo m).2 := by
  show GuiChange m _ (roomIdOf comId m.curRoomId) _
  cases hid : roomIdOf comId m.curRoomId with
  | none =>
    unfold createRoomGui
    rw [bind_panic (openRoom_none hid _ cinfo)]
    exact .idle rfl
  | some roomId =>
    rw [createRoomGui_opens hid]
    exact .open hid (vacant_fromProtobuf req comId) cinfo (.refl _) rfl

theorem enterQuickmatch_some {room : GuiRoom} (hr : m.rooms.get? roomId = some room)
    (comId : ComId) (req : QuickMatchGuiRequest) (cinfo : ClientInfo) :
    enterQuickmatch comId req cinfo (some roomId) m =
      (m.entryOutcome roomId cinfo.userId roomId,
        m.entered roomId (room.addMember cinfo false) cinfo.userId) := by
  have hadd := addMemberToRoom_run hr cinfo false
  rw [enterQuickmatch]
  unfold entryOutcome at hadd ⊢
  by_cases h : roomId ∈ m.userRooms.setAt cinfo.userId
  · rw [if_pos h] at hadd ⊢
    exact bind_panic hadd
  · rw [if_neg h] at hadd ⊢
    rw [bind_ok hadd]
    rfl

theorem quickmatchGui_opens {req : QuickMatchGuiRequest}
    (hf : m.searchRooms comId (·.isQuickmatch req) order = .ok none)
    (hid : roomIdOf comId m.curRoomId = some roomId) (cinfo : ClientInfo) :
    ∃ room, SameCrew ((fromQuickmatchProtobuf req comId).addMember cinfo true) room ∧
      (quickmatchGui comId req cinfo order m).2 = m.opened comId roomId room cinfo.userId := by
  have hopen := openRoom_some hid (fromQuickmatchProtobuf req comId) cinfo
  unfold quickmatchGui
  rw [bind_ok (read_run m), hf, bind_ok (ofPanic_ok none m)]
  unfold enterQuickmatch
  refine entry_bind hopen (P := fun s => ∃ room, SameCrew _ room ∧ s = m.opened _ _ room _)
    ⟨_, .refl _, rfl⟩ ?_
  obtain ⟨n, stealth, hrun⟩ :=
    completeQuickmatch_run (get?_opened m comId roomId _ cinfo.userId) cinfo
  rw [bind_ok hrun, opened_putRoom]
  refine ⟨_, ?_, rfl⟩
  exact ⟨⟨rfl, rfl⟩, rfl⟩

theorem quickmatchGui_change (m : GuiRoomManager) (comId : ComId) (req : QuickMatchGuiRequest)
    (cinfo : ClientInfo) (order : List GuiRoomId) :
    GuiChange m (.quickmatchGui comId req cinfo order)
      ((GuiOp.quickmatchGui comId req cinfo order).generated m)
      (quickmatchGui comId req cinfo order m).2 := by
  have ht : m.target (.quickmatchGui comId req cinfo order) =
      foundFor cinfo (m.searchRooms comId (·.isQuickmatch req) order) := rfl
  rw [GuiOp.generated]
  cases hf : m.searchRooms comId (·.isQuickmatch req) order with
  | error p =>
    rw [hf] at ht
    unfold quickmatchGui
    rw [bind_ok (read_run m), hf]
    exact .idle ht
  | ok found =>
    rw [hf] at ht
    cases found with
    | none =>
      show GuiChange m _ (roomIdOf comId m.curRoomId) _
      cases hid : roomIdOf comId m.curRoomId with
      | none =>
        unfold quickmatchGui
        rw [bind_ok (read_run m), hf, bind_ok (ofPanic_ok none m)]
        unfold enterQuickmatch
        rw [bind_panic (openRoom_none hid _ cinfo)]
        exact .idle ht
      | some roomId =>
        obtain ⟨room, hcrew, hrun⟩ := quickmatchGui_opens hf hid cinfo
        rw [hrun]
        exact .open hid (vacant_fromQuickmatchProtobuf req comId) cinfo hcrew ht
    | some roomId =>
      obtain ⟨room, hr, hp⟩ := searchRooms_some hf
      unfold quickmatchGui
      rw [bind_ok (read_run m), hf, bind_ok (ofPanic_ok (some roomId) m)]
      refine entry_bind (enterQuickmatch_some hr comId req cinfo)
        (.admitted _ cinfo roomId room _ hr ht hp ⟨rfl, rfl⟩ rfl) ?_
      obtain ⟨n, stealth, hrun⟩ :=
        completeQuickmatch_run (get?_entered m roomId _ cinfo.userId) cinfo
      rw [bind_ok hrun, entered_putRoom]
      refine .admitted _ cinfo roomId room _ hr ht hp ?_ ?_
      · exact ⟨rfl, rfl⟩
      · rfl

theorem joinRoomGui_change (m : GuiRoomManager) (roomId : GuiRoomId) (cinfo : ClientInfo) :
    GuiChange m (.joinRoomGui roomId cinfo) none (joinRoomGui roomId cinfo m).2 := by
  unfold joinRoomGui roomOrMissing
  rw [bind_ok (read_run m)]
  -- where the join is refused, the room is missing, full, or has the user already
  have hquiet : (∀ room, m.rooms.get? roomId = some room →
      ¬ Tested room (.joinRoomGui roomId cinfo)) → GuiChange m (.joinRoomGui roomId cinfo) none m :=
    fun hno => .quiet _ fun roomId' cinfo' room ht hr => by
      obtain ⟨rfl, rfl⟩ := Prod.mk.inj (Option.some.inj ht)
      exact hno room hr
  cases hr : m.rooms.get? roomId with
  | none =>
    refine hquiet fun room hr' => ?_
    rw [hr] at hr'
    cases hr'
  | some room =>
    rw [hr] at hquiet
    simp only [bind_ok (ofExcept_ok room m)]
    by_cases hfull : room.members.len = room.totalSlots.toNat
    · rw [if_pos hfull]
      refine hquiet fun room' hr' htest => ?_
      cases hr'
      exact htest.1 hfull
    by_cases hin : cinfo.userId ∈ room.members.keys
    · rw [if_neg hfull, if_pos hin]
      refine hquiet fun room' hr' htest => ?_
      cases hr'
      exact htest.2 hin
    rw [if_neg hfull, if_neg hin]
    have hchange : GuiChange m (.joinRoomGui roomId cinfo) none
        (m.entered roomId (room.addMember cinfo false) cinfo.userId) :=
      .admitted _ cinfo roomId room _ hr rfl ⟨hfull, hin⟩ ⟨rfl, rfl⟩ rfl
    refine entry_bind (addMemberToRoom_run hr cinfo false) hchange ?_
    rw [bind_ok (readRoom_run (get?_entered m roomId _ cinfo.userId))]
    exact hchange

theorem searchJoinGui_change (m : GuiRoomManager) (comId : ComId) (req : SearchJoinRoomGuiRequest)
    (cinfo : ClientInfo) (order : List GuiRoomId) :
    GuiChange m (.searchJoinGui comId req cinfo order) none
      (searchJoinGui comId req cinfo order m).2 := by
  unfold searchJoinGui
  rw [bind_ok (read_run m)]
  have ht : m.target (.searchJoinGui comId req cinfo order) =
      foundFor cinfo (m.searchRooms comId (·.isMatch req.conds true) order) := rfl
  cases hf : m.searchRooms comId (·.isMatch req.conds true) order with
  | error p =>
    rw [hf] at ht
    exact .idle ht
  | ok found =>
    rw [hf] at ht
    rw [bind_ok (ofPanic_ok found m)]
    cases found with
    | none => exact .idle ht
    | some roomId =>
      obtain ⟨room, hr, hp⟩ := searchRooms_some hf
      have hchange : GuiChange m (.searchJoinGui comId req cinfo order) none
          (m.entered roomId (room.addMember cinfo false) cinfo.userId) :=
        .admitted _ cinfo roomId room _ hr ht hp ⟨rfl, rfl⟩ rfl
      rw [searchJoinFound, bind_ok (readRoom_run hr)]
      refine entry_bind (addMemberToRoom_run hr cinfo false) hchange ?_
      rw [bind_ok (readRoom_run (get?_entered m roomId _ cinfo.userId))]
      exact hchange

/-! ### Leaving -/

/-- **What is stored is listed**: a room has a member, is filed under its com id, and is on the list
    of each of its members. A leave relies on it. -/
structure Listed (m : GuiRoomManager) : Prop where
  filed : ∀ {roomId : GuiRoomId} {room : GuiRoom}, m.rooms.get? roomId = some room →
    roomId ∈ m.comidRooms.setAt room.communicationId
  member : ∀ {roomId : GuiRoomId} {room : GuiRoom} {userId : UserId},
    m.rooms.get? roomId = some room → userId ∈ room.members.keys →
    roomId ∈ m.userRooms.setAt userId
  nonempty : ∀ {roomId : GuiRoomId} {room : GuiRoom}, m.rooms.get? roomId = some room →
    room.members.keys.Nonempty

theorem dropUserRoom_run {userId : UserId} (h : roomId ∈ m.userRooms.setAt userId) :
    dropUserRoom roomId userId m =
      (.ok (), { m with userRooms := m.userRooms.dropFrom userId roomId }) := by
  obtain ⟨s, hs, _⟩ := exists_of_mem_setAt h
  unfold dropUserRoom
  simp only [bind_run, read_run, hs, unwrap_some, write_run]

theorem dropUserRooms_run {order : List UserId} (hn : order.Nodup) (m : GuiRoomManager)
    (h : ∀ u ∈ order, roomId ∈ m.userRooms.setAt u) :
    ∃ userRooms, order.forM (dropUserRoom roomId) m = (.ok (), { m with userRooms }) ∧
      ∀ u, userRooms.setAt u =
        if u ∈ order then (m.userRooms.setAt u).erase roomId else m.userRooms.setAt u := by
  induction order generalizing m with
  | nil => exact ⟨m.userRooms, rfl, fun u => by rw [if_neg List.not_mem_nil]⟩
  | cons v order ih =>
    obtain ⟨hv, hn⟩ := List.nodup_cons.mp hn
    -- the members still to come are not `v`, so their lists are as before
    obtain ⟨userRooms, hrun, hset⟩ := ih hn
      { m with userRooms := m.userRooms.dropFrom v roomId } fun u hu => by
        show roomId ∈ (m.userRooms.dropFrom v roomId).setAt u
        have hne : u ≠ v := fun e => hv (e ▸ hu)
        rw [setAt_dropFrom, if_neg hne]
        exact h u (List.mem_cons_of_mem _ hu)
    refine ⟨userRooms, ?_, fun u => ?_⟩
    · show (dropUserRoom roomId v >>= fun _ => order.forM (dropUserRoom roomId)) m = _
      rw [bind_ok (dropUserRoom_run (h v List.mem_cons_self)), hrun]
    · have hsetu : userRooms.setAt u = if u ∈ order then
          ((m.userRooms.dropFrom v roomId).setAt u).erase roomId
          else (m.userRooms.dropFrom v roomId).setAt u := hset u
      rw [hsetu, setAt_dropFrom]
      by_cases e : u = v
      · subst e
        rw [if_neg hv, if_pos rfl, if_pos List.mem_cons_self]
      · rw [if_neg e]
        by_cases hu : u ∈ order
        · rw [if_pos hu, if_pos (List.mem_cons_of_mem _ hu)]
        · rw [if_neg hu, if_neg fun hmem => hu ((List.mem_cons.mp hmem).resolve_left e)]

theorem removeRoom_run {room : GuiRoom} (hf : roomId ∈ m.comidRooms.setAt comId)
    (hr : m.rooms.get? roomId = some room) :
    removeRoom comId roomId m = (.ok (), { m with
      comidRooms := m.comidRooms.dropFrom comId roomId
      rooms := m.rooms.remove roomId }) := by
  obtain ⟨s, hs, hmem⟩ := exists_of_mem_setAt hf
  unfold removeRoom
  simp only [bind_run, read_run, hs, unwrap_some, write_run, modify_run,
    decide_eq_true hmem, hr, Option.isSome_some, check_true]

theorem get?_departed (m : GuiRoomManager) (roomId : GuiRoomId) (room : GuiRoom)
    (userId : UserId) : (m.departed roomId room userId).rooms.get? roomId = some room := by
  simp [departed, putRoom]

theorem departed_putRoom (m : GuiRoomManager) (roomId : GuiRoomId) (room room' : GuiRoom)
    (userId : UserId) : (m.departed roomId room userId).putRoom roomId room' =
      m.departed roomId room' userId := by
  simp only [departed, putRoom, insert_insert]

theorem setAt_departed (m : GuiRoomManager) (roomId : GuiRoomId) (room : GuiRoom)
    (userId u : UserId) : (m.departed roomId room userId).userRooms.setAt u =
      if u = userId then (m.userRooms.setAt userId).erase roomId else m.userRooms.setAt u :=
  setAt_dropFrom _ _ _ _

section Leave

variable {m : GuiRoomManager} {roomId : GuiRoomId} {room : GuiRoom} {cinfo : ClientInfo}
  {memberLeft : GuiRoomMember}

/-- A leave that is through: it returns, and the user is gone. -/
def LeftRoom (m : GuiRoomManager) (roomId : GuiRoomId) (cinfo : ClientInfo) (order : List UserId)
    (random : Nat) (res : Outcome ErrorType GuiPanic α × GuiRoomManager) : Prop :=
  ∃ x m', res = (.ok x, m') ∧ GuiChange m (.leaveRoomGui roomId cinfo order random) none m' ∧
    ¬ m'.MemberOf cinfo.userId roomId

def without (room : GuiRoom) (userId : UserId) : GuiRoom :=
  { room with members := room.members.remove userId }

theorem not_memberOf_removed {m' : GuiRoomManager} (h : m'.rooms = m.rooms.remove roomId)
    (userId : UserId) : ¬ m'.MemberOf userId roomId := by
  intro ⟨room', hr', _⟩
  rw [h, get?_remove, if_pos rfl] at hr'
  cases hr'

theorem not_memberOf_departed {room' : GuiRoom}
    (h : Successor room cinfo.userId memberLeft room'.members) :
    ¬ (m.departed roomId room' cinfo.userId).MemberOf cinfo.userId roomId := by
  intro ⟨r, hr', hu⟩
  rw [get?_departed] at hr'
  cases hr'
  rw [h.keys] at hu
  exact Finset.notMem_erase _ _ hu

theorem removeRoom_after (h : Listed m) (hr : m.rooms.get? roomId = some room)
    (userId : UserId) (s : GuiRoomManager) (hcom : s.comidRooms = m.comidRooms)
    (hrooms : s.rooms = m.rooms.insert roomId (without room userId)) :
    removeRoom (without room userId).communicationId roomId s = (.ok (), { s with
      comidRooms := m.comidRooms.dropFrom room.communicationId roomId
      rooms := m.rooms.remove roomId }) := by
  have hf : roomId ∈ s.comidRooms.setAt (without room userId).communicationId := by
    rw [hcom]
    show roomId ∈ m.comidRooms.setAt room.communicationId
    exact h.filed hr
  have hget : s.rooms.get? roomId = some (without room userId) := by
    rw [hrooms, get?_insert, if_pos rfl]
  rw [removeRoom_run hf hget, hcom, hrooms, remove_insert]
  rfl

theorem afterLeave_last (h : Listed m) (hr : m.rooms.get? roomId = some room)
    (hm : room.members.get? cinfo.userId = some memberLeft)
    (hlast : (room.members.remove cinfo.userId).len = 0) (order : List UserId) (random : Nat) :
    LeftRoom m roomId cinfo order random (afterLeave roomId (without room cinfo.userId) memberLeft
      order random (m.departed roomId (without room cinfo.userId) cinfo.userId)) := by
  unfold afterLeave
  rw [if_pos (show (without room cinfo.userId).members.len = 0 from hlast)]
  have hrem := removeRoom_after h hr cinfo.userId
    (m.departed roomId (without room cinfo.userId) cinfo.userId) rfl rfl
  refine ⟨_, _, bind_ok hrem, .ended roomId cinfo order random room _ hr rfl rfl rfl
    fun u => ?_, not_memberOf_removed rfl _⟩
  refine (setAt_departed m roomId (without room cinfo.userId) cinfo.userId u).trans ?_
  by_cases e : u = cinfo.userId
  · rw [if_pos e, e, if_pos (mem_keys.mpr ⟨memberLeft, hm⟩)]
  · have hnone := len_eq_zero.mp hlast u
    rw [get?_remove, if_neg e] at hnone
    rw [if_neg e, if_neg (notMem_keys.mpr hnone)]

variable {order : List UserId}

theorem disappear_run (h : Listed m) (hr : m.rooms.get? roomId = some room)
    (hm : room.members.get? cinfo.userId = some memberLeft)
    (ho : Orders order (room.members.keys.erase cinfo.userId)) (random : Nat) :
    LeftRoom m roomId cinfo order random (disappear roomId (without room cinfo.userId) order
      (m.departed roomId (without room cinfo.userId) cinfo.userId)) := by
  have hmem : ∀ u, u ∈ order ↔ u ≠ cinfo.userId ∧ u ∈ room.members.keys := by
    intro u
    rw [← List.mem_toFinset, ho.2, Finset.mem_erase]
  obtain ⟨userRooms, hrun, hset⟩ := dropUserRooms_run ho.1
    (m.departed roomId (without room cinfo.userId) cinfo.userId) fun u hu => by
      rw [setAt_departed, if_neg ((hmem u).mp hu).1]
      exact h.member hr ((hmem u).mp hu).2
  unfold disappear
  have hrem := removeRoom_after h hr cinfo.userId
    { m.departed roomId (without room cinfo.userId) cinfo.userId with userRooms } rfl rfl
  rw [bind_ok hrun]
  refine ⟨_, _, bind_ok hrem, .ended roomId cinfo order random room _ hr rfl rfl rfl
    fun u => ?_, not_memberOf_removed rfl _⟩
  show userRooms.setAt u = _
  rw [hset, setAt_departed]
  by_cases e : u = cinfo.userId
  · rw [if_neg fun hu => ((hmem u).mp hu).1 e, if_pos e, e,
      if_pos (mem_keys.mpr ⟨memberLeft, hm⟩)]
  · rw [if_neg e]
    by_cases hu : u ∈ room.members.keys
    · rw [if_pos ((hmem u).mpr ⟨e, hu⟩), if_pos hu]
    · rw [if_neg fun hmem' => hu ((hmem u).mp hmem').2, if_neg hu]

theorem handOver_run (hr : m.rooms.get? roomId = some room)
    (hm : room.members.get? cinfo.userId = some memberLeft) (howner : memberLeft.owner = true)
    (hne : (room.members.remove cinfo.userId).len ≠ 0)
    (ho : Orders order (room.members.keys.erase cinfo.userId)) (random : Nat)
    (shown : GuiRoomMember) :
    LeftRoom m roomId cinfo order random (handOver roomId (without room cinfo.userId) shown order
      random (m.departed roomId (without room cinfo.userId) cinfo.userId)) := by
  have hlen : order.length = (room.members.remove cinfo.userId).len := by
    rw [len, keys_remove, ← ho.2, List.toFinset_card_of_nodup ho.1]
  have hlt : random % order.length < order.length := Nat.mod_lt _ (by omega)
  have hs : order[random % order.length] ∈ (room.members.remove cinfo.userId).keys := by
    rw [keys_remove, ← ho.2, List.mem_toFinset]
    exact List.getElem_mem hlt
  obtain ⟨member, hmember⟩ := mem_keys.mp hs
  have hget : (without room cinfo.userId).members.get? order[random % order.length] =
      some member := hmember
  unfold handOver
  rw [List.getElem?_eq_getElem hlt]
  simp only [bind_run, unwrap_some, hget, modify_run, pure_run,
    departed_putRoom]
  have hsucc : Successor room cinfo.userId memberLeft _ := .random _ member howner hmember
  exact ⟨_, _, rfl, .departed roomId cinfo order random room _ memberLeft hr hm ⟨rfl, rfl⟩
    hsucc hne, not_memberOf_departed hsucc⟩

theorem leaveRoomGui_member (h : Listed m) (hr : m.rooms.get? roomId = some room)
    (hm : room.members.get? cinfo.userId = some memberLeft)
    (ho : Orders order (room.members.keys.erase cinfo.userId)) (random : Nat) :
    LeftRoom m roomId cinfo order random (leaveRoomGui roomId cinfo order random m) := by
  have hdrop : dropUserRoom roomId cinfo.userId
      (m.putRoom roomId (without room cinfo.userId)) =
      (.ok (), m.departed roomId (without room cinfo.userId) cinfo.userId) :=
    dropUserRoom_run (h.member hr (mem_keys.mpr ⟨memberLeft, hm⟩))
  have e : leaveRoomGui roomId cinfo order random m =
      afterLeave roomId (without room cinfo.userId) memberLeft order random
        (m.departed roomId (without room cinfo.userId) cinfo.userId) := by
    unfold leaveRoomGui roomOrMissing memberOrNotFound
    rw [bind_ok (read_run m), hr]
    simp only [bind_ok (ofExcept_ok room m), hm]
    rw [bind_ok (ofExcept_ok memberLeft m), bind_ok (write_run m _)]
    exact bind_ok hdrop
  rw [e]
  by_cases hlast : (room.members.remove cinfo.userId).len = 0
  · exact afterLeave_last h hr hm hlast order random
  unfold afterLeave
  rw [if_neg (show ¬ (without room cinfo.userId).members.len = 0 from hlast)]
  by_cases howner : memberLeft.owner = true
  · rw [if_pos howner]
    by_cases hgrant : (!(without room cinfo.userId).privilegeGrant) = true
    · rw [if_pos hgrant]
      exact disappear_run h hr hm ho random
    · rw [if_neg hgrant]
      exact handOver_run hr hm howner hlast ho random _
  · rw [if_neg howner]
    have hsucc : Successor room cinfo.userId memberLeft _ := .none (Bool.eq_false_iff.mpr howner)
    exact ⟨_, _, rfl, .departed roomId cinfo order random room _ memberLeft hr hm ⟨rfl, rfl⟩
      hsucc hlast, not_memberOf_departed hsucc⟩

end Leave

theorem leaveRoomGui_stranger {cinfo : ClientInfo} (hno : ¬ m.MemberOf cinfo.userId roomId)
    (order : List UserId) (random : Nat) :
    ∃ e, leaveRoomGui roomId cinfo order random m = (.err e, m) := by
  unfold leaveRoomGui roomOrMissing memberOrNotFound
  rw [bind_ok (read_run m)]
  cases hr : m.rooms.get? roomId with
  | none => exact ⟨.roomMissing, rfl⟩
  | some room =>
    have hm : room.members.get? cinfo.userId = none :=
      notMem_keys.mp fun hu => hno ⟨room, hr, hu⟩
    simp only [bind_ok (ofExcept_ok room m), hm]
    exact ⟨.notFound, rfl⟩

section LeaveStep

variable {m : GuiRoomManager} (h : Listed m) (roomId : GuiRoomId) (cinfo : ClientInfo)
  (order : List UserId) (random : Nat)
  (hp : (GuiOp.leaveRoomGui roomId cinfo order random).Possible m)

include h hp

theorem leaveRoomGui_cases :
    LeftRoom m roomId cinfo order random (leaveRoomGui roomId cinfo order random m) ∨
      ¬ m.MemberOf cinfo.userId roomId ∧
        ∃ e, leaveRoomGui roomId cinfo order random m = (.err e, m) := by
  by_cases hin : m.MemberOf cinfo.userId roomId
  · obtain ⟨room, hr, hu⟩ := hin
    obtain ⟨memberLeft, hm⟩ := mem_keys.mp hu
    exact Or.inl (leaveRoomGui_member h hr hm (hp room hr) random)
  · exact Or.inr ⟨hin, leaveRoomGui_stranger hin order random⟩

theorem leaveRoomGui_step :
    (∀ p, (leaveRoomGui roomId cinfo order random m).1 ≠ .panic p) ∧
      GuiChange m (.leaveRoomGui roomId cinfo order random) none
        (leaveRoomGui roomId cinfo order random m).2 := by
  rcases leaveRoomGui_cases h roomId cinfo order random hp with ⟨x, m', e, hc, -⟩ | ⟨-, _, e⟩
  · rw [e]
    exact ⟨fun p hpanic => (by cases hpanic), hc⟩
  · rw [e]
    exact ⟨fun p hpanic => (by cases hpanic), .idle rfl⟩

theorem leaveRoomGui_gone :
    ¬ (leaveRoomGui roomId cinfo order random m).2.MemberOf cinfo.userId roomId := by
  rcases leaveRoomGui_cases h roomId cinfo order random hp with ⟨x, m', e, -, hgone⟩ | ⟨hno, _, e⟩
  · rw [e]
    exact hgone
  · rw [e]
    exact hno

end LeaveStep

/-! ### The other requests -/

theorem getRoomAndCheckOwnership_ok {userId : UserId} {room : GuiRoom}
    (h : m.getRoomAndCheckOwnership roomId userId = .ok room) :
    m.rooms.get? roomId = some room := by
  obtain ⟨r, hr, h⟩ := except_bind_ok h
  obtain ⟨member, -, h⟩ := except_bind_ok h
  split at h
  · cases h
  cases h
  unfold roomOrMissing at hr
  split at hr
  · cases hr
    assumption
  · cases hr

theorem onOwned_change (ht : m.target op = none) (roomId : GuiRoomId) (userId : UserId)
    {f : GuiRoom → GuiRoom} (hf : ∀ room, SameCrew room (f room)) :
    GuiChange m op none ((Call.ofExcept (m.getRoomAndCheckOwnership roomId userId) >>=
      fun room => (Call.write (m.putRoom roomId (f room)) : GuiCall Unit)) m).2 := by
  cases h : m.getRoomAndCheckOwnership roomId userId with
  | error e => exact .idle ht
  | ok room =>
    rw [bind_ok (ofExcept_ok room m)]
    exact .touched op roomId room (f room) (getRoomAndCheckOwnership_ok h) (hf room) ht

theorem look_state (f : GuiRoomManager → Except ErrorType α) (m : GuiRoomManager) :
    (look f m).2 = m := by
  unfold look
  rw [bind_ok (read_run m)]
  cases f m <;> rfl

theorem call_change (h : Listed m) (op : GuiOp) (hp : op.Possible m) :
    GuiChange m op (op.generated m) (op.call m).2 := by
  cases op with
  | createRoomGui comId req cinfo =>
    rw [GuiOp.call, mapOk_state]
    exact createRoomGui_change m comId req cinfo
  | joinRoomGui roomId cinfo =>
    rw [GuiOp.call, mapOk_state]
    exact joinRoomGui_change m roomId cinfo
  | leaveRoomGui roomId cinfo order random =>
    rw [GuiOp.call, mapOk_state]
    exact (leaveRoomGui_step h roomId cinfo order random hp).2
  | quickmatchGui comId req cinfo order =>
    rw [GuiOp.call, mapOk_state]
    exact quickmatchGui_change m comId req cinfo order
  | searchJoinGui comId req cinfo order =>
    rw [GuiOp.call, mapOk_state]
    exact searchJoinGui_change m comId req cinfo order
  | setSearchFlag roomId stealth userId =>
    rw [GuiOp.call, mapOk_state]
    exact onOwned_change rfl roomId userId fun room => ⟨⟨rfl, rfl⟩, rfl⟩
  | setRoomInfoGui roomId attrs userId =>
    rw [GuiOp.call, mapOk_state]
    exact onOwned_change rfl roomId userId fun room => sameCrew_foldl sameCrew_setAttr attrs room
  | getRoomListGui comId req order =>
    rw [GuiOp.call, bind_ok (read_run m)]
    cases m.getRoomListGui comId req order <;> exact .idle rfl
  | getSearchFlag roomId =>
    rw [GuiOp.call, mapOk_state, look_state]
    exact .idle rfl
  | getRoomInfoGui roomId attrs =>
    rw [GuiOp.call, mapOk_state, look_state]
    exact .idle rfl

end GuiRoomManager

end Rpcn
