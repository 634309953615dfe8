/-
  File:      Rpcn/Room/SearchAll.lean
  Subject:   DO `SearchRoom` AND `SearchRoomAll` AGREE? The second set of search functions.

  room_manager.rs has the filters and the encoder of a room twice, once without and once with the
  members. The second copy is translated here statement by statement, loops as loops, and compared
  with the first, which Search.lean has in the terms of lists.
-/
import Rpcn.Room.Reachable
import Rpcn.Room.Search

namespace Rpcn

open Lib Np2Structs Outcome
open Std (ExtTreeMap)

abbrev roleMember : UInt8 := 1

abbrev roleOwner : UInt8 := 2

/-! ## 1. Filters -/

variable (room : Room) {id : UInt16}

namespace Room

theorem intIndex_lt (h : ¬ (id < roomSearchableIntAttrExternal1Id ∨
    id > roomSearchableIntAttrExternal8Id)) :
    (id - roomSearchableIntAttrExternal1Id).toNat < 8 := by
  have hlo : roomSearchableIntAttrExternal1Id ≤ id := UInt16.not_lt.mp fun e => h (Or.inl e)
  have hhi : id ≤ roomSearchableIntAttrExternal8Id := UInt16.not_lt.mp fun e => h (Or.inr e)
  rw [UInt16.toNat_sub_of_le _ _ hlo]
  have hhi : id.toNat ≤ 0x53 := hhi
  have e : (roomSearchableIntAttrExternal1Id).toNat = 0x4C := by decide
  omega

def matchesAllInt (room : Room) : List IntSearchFilter → SearchOutcome Bool
  | [] => return true
  | intfilter :: rest => do
    let op ← .ofExcept (Uint8.getVerifiedOpt intfilter.searchOperator)
    match intfilter.attr with
    | none => room.matchesAllInt rest
    | some attr =>
      let id ← .ofExcept (Uint16.getVerifiedOpt attr.id)
      let num := attr.num
      if h : id < roomSearchableIntAttrExternal1Id ∨ id > roomSearchableIntAttrExternal8Id then
        return false
      else
        let found := room.searchIntAttr.get
          ⟨(id - roomSearchableIntAttrExternal1Id).toNat, intIndex_lt h⟩
        match Operator.fromU8 op with
        | none => return false
        | some .eq => if found.attr ≠ num then return false else room.matchesAllInt rest
        | some .ne => if found.attr = num then return false else room.matchesAllInt rest
        | some .lt => if found.attr ≥ num then return false else room.matchesAllInt rest
        | some .le => if found.attr > num then return false else room.matchesAllInt rest
        | some .gt => if found.attr ≤ num then return false else room.matchesAllInt rest
        | some .ge => if found.attr < num then return false else room.matchesAllInt rest

def matchesAllBin (room : Room) : List BinSearchFilter → SearchOutcome Bool
  | [] => return true
  | binfilter :: rest => do
    let op ← .ofExcept (Uint8.getVerifiedOpt binfilter.searchOperator)
    match binfilter.attr with
    | none => room.matchesAllBin rest
    | some attr =>
      let id ← .ofExcept (Uint16.getVerifiedOpt attr.id)
      let data := attr.data
      if id ≠ roomSearchableBinAttrExternal1Id then return false
      else
        match Operator.fromU8 op with
        | none => return false
        | some op =>
          let lenCompare := min data.length room.searchBinAttr.attr.toList.length
          let equality :=
            room.searchBinAttr.attr.toList.take lenCompare == data.take lenCompare
          match op with
          | .eq => if !equality then return false else room.matchesAllBin rest
          | .ne => if equality then return false else room.matchesAllBin rest
          | _ => .panic .binOperator

def isMatchAll (room : Room) (req : SearchRoomRequest) : SearchOutcome Bool := do
  let ints ← room.matchesAllInt req.intFilter
  if ints then room.matchesAllBin req.binFilter else return false

theorem searchInt_of_range
    (h : ¬ (id < roomSearchableIntAttrExternal1Id ∨ id > roomSearchableIntAttrExternal8Id)) :
    room.searchInt id = some (room.searchIntAttr.get
      ⟨(id - roomSearchableIntAttrExternal1Id).toNat, intIndex_lt h⟩) := by
  rw [searchInt, attrAt, if_neg h, Vector.getElem?_eq_getElem (intIndex_lt h)]
  rfl

theorem searchInt_of_not_range
    (h : id < roomSearchableIntAttrExternal1Id ∨ id > roomSearchableIntAttrExternal8Id) :
    room.searchInt id = none := by
  rw [searchInt, attrAt, if_pos h]

theorem ite_turned {α : Type} {p : Bool} {q : Prop} [Decidable q] (h : p = true ↔ ¬ q) (x y : α) :
    (if p = true then x else y) = if q then y else x := by
  by_cases hq : q
  · rw [if_pos hq, if_neg fun hp => h.mp hp hq]
  · rw [if_neg hq, if_pos (h.mpr hq)]

theorem matchesInt_eq (fs : List IntSearchFilter) : room.matchesInt fs = room.matchesAllInt fs := by
  induction fs with
  | nil => rfl
  | cons f fs ih =>
    rw [matchesInt, matchesAllInt]
    refine bind_congr fun op => ?_
    cases f.attr with
    | none => exact ih
    | some attr =>
      refine bind_congr fun id => ?_
      by_cases hid : id < roomSearchableIntAttrExternal1Id ∨
          id > roomSearchableIntAttrExternal8Id
      · simp only [room.searchInt_of_not_range hid, dif_pos hid]
      · simp only [room.searchInt_of_range hid, dif_neg hid]
        rcases Operator.fromU8 op with _ | op
        · rfl
        · rw [ih]
          cases op <;> exact ite_turned (by simp [Operator.holds]) _ _

theorem matchesBin_eq (fs : List BinSearchFilter) : room.matchesBin fs = room.matchesAllBin fs := by
  induction fs with
  | nil => rfl
  | cons f fs ih =>
    rw [matchesBin, matchesAllBin]
    refine bind_congr fun op => ?_
    cases f.attr with
    | none => exact ih
    | some attr =>
      refine bind_congr fun id => ?_
      by_cases hid : id ≠ roomSearchableBinAttrExternal1Id
      · rw [if_pos hid, if_pos hid]
      · rw [if_neg hid, if_neg hid]
        rcases Operator.fromU8 op with _ | op
        · rfl
        · cases op <;> simp [binEquality, ih, ite_not]

/-- The test of the flags in `is_match`, without the bit of the NAT type. -/
def PassesFlags (room : Room) (req : SearchRoomRequest) : Prop :=
  room.flagAttr &&& roomFlagAttrHidden = 0 ∧
    room.flagAttr &&& (req.flagFilter &&& ~~~roomFlagAttrNatTypeRestriction) =
      req.flagAttr &&& ~~~roomFlagAttrNatTypeRestriction

instance (room : Room) (req : SearchRoomRequest) : Decidable (room.PassesFlags req) :=
  inferInstanceAs (Decidable (_ ∧ _))

theorem isMatch_eq (req : SearchRoomRequest) :
    room.isMatch req = if room.PassesFlags req then room.isMatchAll req else .ok false := by
  unfold isMatch isMatchAll
  rw [matchesInt_eq, matchesBin_eq]
  by_cases hhidden : room.flagAttr &&& roomFlagAttrHidden = 0
  · rw [if_neg (not_not.mpr hhidden)]
    by_cases hflags : room.flagAttr &&& (req.flagFilter &&& ~~~roomFlagAttrNatTypeRestriction) =
        req.flagAttr &&& ~~~roomFlagAttrNatTypeRestriction
    · have hpass : room.PassesFlags req := ⟨hhidden, hflags⟩
      rw [if_neg (not_not.mpr hflags), if_pos hpass]
    · have hfail : ¬ room.PassesFlags req := fun h => hflags h.2
      rw [if_pos hflags, if_neg hfail]
      rfl
  · have hfail : ¬ room.PassesFlags req := fun h => hhidden h.1
    rw [if_pos hhidden, if_neg hfail]
    rfl

end Room

/-! ## 2. What a room shows of itself and its members -/

def RoomUser.toRoomMemberDataExternal (u : RoomUser) : RoomMemberDataExternal where
  userInfo := some ⟨u.npid, u.onlineName, u.avatarUrl⟩
  joinDate := u.joinDate
  role :=
    if u.flagAttr &&& roomMemberFlagAttrOwner ≠ 0 then Uint8.newFromValue roleOwner
    else Uint8.newFromValue roleMember

variable (searchOption : Int32)

namespace Room

def ownerInfoAll (room : Room) (searchOption : Int32) : SearchOutcome (Option UserInfo) :=
  if searchOption &&& 0x7 ≠ 0 then do
    let ownerUser ← .unwrap room.users[room.owner]? .ownerMissing
    let info : UserInfo := { npId := ownerUser.npid, onlineName := "", avatarUrl := "" }
    let info := if searchOption &&& 0x2 ≠ 0 then { info with onlineName := ownerUser.onlineName }
      else info
    let info := if searchOption &&& 0x4 ≠ 0 then { info with avatarUrl := ownerUser.avatarUrl }
      else info
    return some info
  else
    return none

structure IncVecs where
  vecSearchint : List IntAttr
  vecSearchbin : List BinAttr
  vecBinattrexternal : List BinAttr

theorem binIndex_lt (h : roomBinAttrExternal1Id ≤ id ∧ id ≤ roomBinAttrExternal2Id) :
    (id - roomBinAttrExternal1Id).toNat < 2 := by
  rw [UInt16.toNat_sub_of_le _ _ h.1]
  have hhi : id.toNat ≤ 0x56 := h.2
  have e : (roomBinAttrExternal1Id).toNat = 0x55 := by decide
  omega

/-- One round of `'inc_loop`. -/
def pushAttr (room : Room) (v : IncVecs) (incAttr : UInt16) : IncVecs :=
  if h : ¬ (incAttr < roomSearchableIntAttrExternal1Id ∨
      incAttr > roomSearchableIntAttrExternal8Id) then
    { v with vecSearchint := v.vecSearchint ++ [(room.searchIntAttr.get
        ⟨(incAttr - roomSearchableIntAttrExternal1Id).toNat, intIndex_lt h⟩).toProtobuf] }
  else if incAttr = roomSearchableBinAttrExternal1Id then
    { v with vecSearchbin := v.vecSearchbin ++ [room.searchBinAttr.toProtobuf] }
  else if h : roomBinAttrExternal1Id ≤ incAttr ∧ incAttr ≤ roomBinAttrExternal2Id then
    { v with vecBinattrexternal := v.vecBinattrexternal ++ [(room.binAttrExternal.get
        ⟨(incAttr - roomBinAttrExternal1Id).toNat, binIndex_lt h⟩).toProtobuf] }
  else v

/-- The loop over the slots, from slot `i` on. -/
def countSlots (room : Room) : Nat → Nat → SlotNums → SearchOutcome SlotNums
  | 0, _, n => return n
  | rounds + 1, i, n => do
    if room.passwordSlotMask &&& ((1 : UInt64) <<< (63 - i.toUInt64)) ≠ 0 then
      let n := { n with maxPrivateSlots := n.maxPrivateSlots + 1 }
      let taken ← .unwrap room.slots[i]? .slotIndex
      room.countSlots rounds (i + 1)
        (if !taken then { n with openPrivateSlots := n.openPrivateSlots + 1 } else n)
    else
      let taken ← .unwrap room.slots[i]? .slotIndex
      room.countSlots rounds (i + 1)
        (if !taken then { n with openPublicSlots := n.openPublicSlots + 1 } else n)

def slotNumsAll (room : Room) : SearchOutcome SlotNums :=
  if room.roomPassword.isSome then room.countSlots room.maxSlot.toNat 0 ⟨0, 0, 0⟩
  else return ⟨0, room.maxSlot, 0⟩

def toRoomDataExternalAll (room : Room) (searchOption : Int32) (incAttrs : List UInt16) :
    SearchOutcome RoomDataExternalAll := do
  let ownerInfo ← room.ownerInfoAll searchOption
  let vecs := incAttrs.foldl room.pushAttr ⟨[], [], []⟩
  let n ← room.slotNumsAll
  return {
    serverId := Uint16.newFromValue room.serverId
    worldId := room.worldId
    publicSlotNum := Uint16.newFromValue (room.maxSlot - n.maxPrivateSlots)
    privateSlotNum := Uint16.newFromValue n.maxPrivateSlots
    lobbyId := room.lobbyId
    roomId := room.roomId
    openPublicSlotNum := Uint16.newFromValue n.openPublicSlots
    maxSlot := Uint16.newFromValue room.maxSlot
    openPrivateSlotNum := Uint16.newFromValue n.openPrivateSlots
    curMemberNum := Uint16.newFromValue room.users.size.toUInt16
    passwordSlotMask := room.passwordSlotMask
    owner := ownerInfo
    roomGroup := room.groupConfig.map (·.toProtobuf)
    flagAttr := room.flagAttr
    roomSearchableIntAttrExternal := vecs.vecSearchint
    roomSearchableBinAttrExternal := vecs.vecSearchbin
    roomBinAttrExternal := vecs.vecBinattrexternal
    users := room.users.toList.map (·.2.toRoomMemberDataExternal) }

theorem ownerInfo_eq : room.ownerInfo searchOption = room.ownerInfoAll searchOption := by
  unfold ownerInfo ownerInfoAll
  refine if_congr Iff.rfl (bind_congr fun ownerUser => ?_) rfl
  by_cases hname : searchOption &&& 0x2 = 0 <;> by_cases havatar : searchOption &&& 0x4 = 0 <;>
    simp [hname, havatar]

theorem attrAt_of_range (h : roomBinAttrExternal1Id ≤ id ∧ id ≤ roomBinAttrExternal2Id) :
    attrAt roomBinAttrExternal1Id roomBinAttrExternal2Id room.binAttrExternal id =
      some (room.binAttrExternal.get ⟨(id - roomBinAttrExternal1Id).toNat, binIndex_lt h⟩) := by
  rw [attrAt, if_neg (by simpa [UInt16.not_lt] using h),
    Vector.getElem?_eq_getElem (binIndex_lt h)]
  rfl

theorem attrAt_of_not_range (id : UInt16)
    (h : ¬ (roomBinAttrExternal1Id ≤ id ∧ id ≤ roomBinAttrExternal2Id)) :
    attrAt roomBinAttrExternal1Id roomBinAttrExternal2Id room.binAttrExternal id = none := by
  rw [attrAt, if_pos]
  by_contra hno
  exact h ⟨UInt16.not_lt.mp fun e => hno (Or.inl e), UInt16.not_lt.mp fun e => hno (Or.inr e)⟩

theorem foldl_pushAttr (incAttrs : List UInt16) (v : IncVecs) :
    incAttrs.foldl room.pushAttr v =
      ⟨v.vecSearchint ++ (incAttrs.filterMap room.searchInt).map (·.toProtobuf),
        v.vecSearchbin ++ (incAttrs.filter (· = roomSearchableBinAttrExternal1Id)).map
          fun _ => room.searchBinAttr.toProtobuf,
        v.vecBinattrexternal ++ (incAttrs.filterMap
          (attrAt roomBinAttrExternal1Id roomBinAttrExternal2Id room.binAttrExternal)).map
          (·.toProtobuf)⟩ := by
  induction incAttrs generalizing v with
  | nil => simp
  | cons id rest ih =>
    rw [List.foldl_cons, ih, pushAttr]
    -- the ids of the three kinds follow each other
    by_cases hint : ¬ (id < roomSearchableIntAttrExternal1Id ∨
        id > roomSearchableIntAttrExternal8Id)
    · have hle : id ≤ roomSearchableIntAttrExternal8Id :=
        UInt16.not_lt.mp fun e => hint (Or.inr e)
      have hbin : decide (id = roomSearchableBinAttrExternal1Id) = false := by
        refine decide_eq_false fun e => ?_
        rw [e] at hle
        exact absurd hle (by decide)
      have hext := room.attrAt_of_not_range id fun h =>
        absurd (UInt16.le_trans h.1 hle) (by decide)
      rw [dif_pos hint]
      simp [room.searchInt_of_range hint, hbin, hext]
    · have hnone := room.searchInt_of_not_range (not_not.mp hint)
      rw [dif_neg hint]
      by_cases hbin : id = roomSearchableBinAttrExternal1Id
      · have hext := room.attrAt_of_not_range id (by rw [hbin]; decide)
        have hbin' := decide_eq_true hbin
        rw [if_pos hbin]
        simp [hnone, hbin', hext]
      · have hbin' := decide_eq_false hbin
        rw [if_neg hbin]
        by_cases hext : roomBinAttrExternal1Id ≤ id ∧ id ≤ roomBinAttrExternal2Id
        · rw [dif_pos hext]
          simp [hnone, hbin', room.attrAt_of_range hext]
        · rw [dif_neg hext]
          simp [hnone, hbin', room.attrAt_of_not_range id hext]

theorem countSlots_eq (rounds i : Nat) (n : SlotNums) :
    room.countSlots rounds i n = (List.range' i rounds).foldlM room.countSlot n := by
  induction rounds generalizing i n with
  | zero => rfl
  | succ rounds ih =>
    rw [countSlots, List.range'_succ, List.foldlM_cons, countSlot]
    cases room.slots[i]? with
    | none => split <;> rfl
    | some taken =>
      -- the two copies count a free slot before and after the test of the mask
      by_cases hmask : room.passwordSlotMask &&& ((1 : UInt64) <<< (63 - i.toUInt64)) ≠ 0
      · cases taken <;> simp [hmask, ih]
      · cases taken <;> simp [hmask, ih]

theorem slotNums_eq : room.slotNums = room.slotNumsAll := by
  unfold slotNums slotNumsAll
  rw [countSlots_eq, List.range_eq_range']

theorem toRoomDataExternalAll_eq (incAttrs : List UInt16) :
    room.toRoomDataExternalAll searchOption incAttrs =
      (fun rd => { rd with users := room.users.toList.map (·.2.toRoomMemberDataExternal) }) <$>
        room.toRoomDataExternal searchOption incAttrs := by
  unfold toRoomDataExternalAll toRoomDataExternal
  rw [ownerInfo_eq, slotNums_eq, foldl_pushAttr]
  cases room.ownerInfoAll searchOption with
  | err e => rfl
  | panic p => rfl
  | ok owner =>
    cases room.slotNumsAll with
    | err e => rfl
    | panic p => rfl
    | ok n => rfl

end Room

/-! ## 3. The searches -/

def Np2Structs.GetRoomDataExternalListRequest.incAttrs (req : GetRoomDataExternalListRequest) :
    SearchOutcome (List UInt16) :=
  .ofExcept (req.attrIds.mapM Uint16.getVerified)

variable {m : RoomManager} {comId : ComId} {ids : List UInt64} {test : Room → SearchOutcome Bool}
  {rooms : List Room}

namespace RoomManager

def matchingRoomsAll (m : RoomManager) (comId : ComId) (req : SearchRoomRequest) :
    List UInt64 → SearchOutcome (List Room)
  | [] => return []
  | roomId :: rest => do
    let room ← .unwrap (m.rooms.get? (comId, roomId)) .roomMissing
    let hit ← room.isMatchAll req
    let rooms ← m.matchingRoomsAll comId req rest
    return if hit then room :: rooms else rooms

def searchRoomAll (m : RoomManager) (comId : ComId) (req : SearchRoomRequest)
    (ids : List UInt64) : SearchOutcome SearchRoomAllResponse := do
  let matching ← m.matchingRoomsAll comId req ids
  if matching.length ≥ req.startIndex.toNat then
    let incAttrs ← req.incAttrs
    let start := req.startIndex.toNat - 1
    let numToGet := min (matching.length - start) req.max.toNat
    let rooms ← ((matching.drop start).take numToGet).mapM
      (·.toRoomDataExternalAll req.option incAttrs)
    return ⟨req.startIndex, matching.length.toUInt32, rooms⟩
  else
    return ⟨req.startIndex, matching.length.toUInt32, []⟩

/-- `RoomManager::get_roomdata_external_list`. Ids without a room are passed over. -/
def getRoomdataExternalList (m : RoomManager) (comId : ComId)
    (req : GetRoomDataExternalListRequest) : SearchOutcome GetRoomDataExternalListResponse := do
  let incAttrs ← req.incAttrs
  let rooms ← (req.roomIds.filter fun roomId => (m.rooms.get? (comId, roomId)).isSome).mapM
    fun roomId => do
      let room ← .unwrap (m.rooms.get? (comId, roomId)) .roomMissing
      room.toRoomDataExternal 7 incAttrs
  return ⟨rooms⟩

def searchLoop (m : RoomManager) (comId : ComId) (test : Room → SearchOutcome Bool) :
    List UInt64 → SearchOutcome (List Room)
  | [] => return []
  | roomId :: rest => do
    let room ← .unwrap (m.rooms.get? (comId, roomId)) .roomMissing
    let hit ← test room
    let rooms ← m.searchLoop comId test rest
    return if hit then room :: rooms else rooms

theorem matchingRooms_eq_loop (m : RoomManager) (comId : ComId) (req : SearchRoomRequest)
    (ids : List UInt64) :
    m.matchingRooms comId req ids = m.searchLoop comId (·.isMatch req) ids := by
  induction ids with
  | nil => rfl
  | cons roomId rest ih => rw [matchingRooms, searchLoop, ih]

theorem matchingRoomsAll_eq_loop (m : RoomManager) (comId : ComId) (req : SearchRoomRequest)
    (ids : List UInt64) :
    m.matchingRoomsAll comId req ids = m.searchLoop comId (·.isMatchAll req) ids := by
  induction ids with
  | nil => rfl
  | cons roomId rest ih => rw [matchingRoomsAll, searchLoop, ih]

theorem searchLoop_eq_ok :
    m.searchLoop comId test ids = .ok rooms ↔
      ∃ all : List Room, ids.map (fun i => m.rooms.get? (comId, i)) = all.map some ∧
        (∀ room ∈ all, ∃ b, test room = .ok b) ∧ rooms = all.filter (test · = .ok true) := by
  induction ids generalizing rooms with
  | nil =>
    constructor
    · intro h
      cases h
      exact ⟨[], rfl, fun _ h => absurd h List.not_mem_nil, rfl⟩
    · rintro ⟨all, hall, -, rfl⟩
      obtain rfl : all = [] := List.map_eq_nil_iff.mp hall.symm
      rfl
  | cons roomId rest ih =>
    rw [searchLoop]
    constructor
    · intro h
      obtain ⟨room, hroom, h⟩ := bind_eq_ok h
      obtain ⟨hit, hhit, h⟩ := bind_eq_ok h
      obtain ⟨others, hothers, h⟩ := bind_eq_ok h
      obtain ⟨all, hall, htests, rfl⟩ := ih.mp hothers
      refine ⟨room :: all, ?_, ?_, ?_⟩
      · rw [List.map_cons, List.map_cons, unwrap_eq_ok hroom, hall]
      · intro r hr
        rcases List.mem_cons.mp hr with rfl | hr
        · exact ⟨hit, hhit⟩
        · exact htests r hr
      · cases h
        cases hit <;> simp [hhit]
    · rintro ⟨all, hall, htests, rfl⟩
      cases all with
      | nil => cases hall
      | cons room all =>
        rw [List.map_cons, List.map_cons, List.cons.injEq] at hall
        obtain ⟨hit, hhit⟩ := htests room List.mem_cons_self
        have hrest := ih.mpr ⟨all, hall.2,
          fun r hr => htests r (List.mem_cons_of_mem _ hr), rfl⟩
        rw [hall.1, unwrap_some, ok_bind, hhit, ok_bind, hrest]
        cases hit with
        | false => rw [List.filter_cons_of_neg (by simp [hhit])]; rfl
        | true => rw [List.filter_cons_of_pos (by simp [hhit])]; rfl

theorem mem_searchLoop (h : m.searchLoop comId test ids = .ok rooms) {room : Room} :
    room ∈ rooms ↔ (∃ i ∈ ids, m.rooms.get? (comId, i) = some room) ∧ test room = .ok true := by
  obtain ⟨all, hall, -, rfl⟩ := searchLoop_eq_ok.mp h
  have hmem : room ∈ all ↔ ∃ i ∈ ids, m.rooms.get? (comId, i) = some room := by
    rw [← List.mem_map, hall, List.mem_map_of_injective (Option.some_injective _)]
  rw [List.mem_filter, hmem, decide_eq_true_iff]

end RoomManager

namespace Room

theorem matchesInt_decides {room : Room} {fs : List IntSearchFilter}
    (h : room.matchesInt fs = .ok true) (room' : Room) : ∃ b, room'.matchesInt fs = .ok b := by
  induction fs with
  | nil => exact ⟨true, rfl⟩
  | cons f fs ih =>
    rw [matchesInt] at h ⊢
    obtain ⟨op, hop, h⟩ := bind_eq_ok h
    rw [hop, ok_bind]
    cases hattr : f.attr with
    | none =>
      rw [hattr] at h
      exact ih h
    | some attr =>
      rw [hattr] at h
      obtain ⟨id, hid, h⟩ := bind_eq_ok h
      simp only [hid, ok_bind]
      -- whether there is such an integer and such an operator does not depend on the room
      split at h
      · split at h
        · obtain ⟨b, hb⟩ := ih h
          split
          · split
            · exact ⟨b, hb⟩
            · exact ⟨false, rfl⟩
          · exact ⟨false, rfl⟩
        · cases h
      · cases h

theorem matchesBin_decides {room : Room} {fs : List BinSearchFilter}
    (h : room.matchesBin fs = .ok true) (room' : Room) : ∃ b, room'.matchesBin fs = .ok b := by
  induction fs with
  | nil => exact ⟨true, rfl⟩
  | cons f fs ih =>
    rw [matchesBin] at h ⊢
    obtain ⟨op, hop, h⟩ := bind_eq_ok h
    rw [hop, ok_bind]
    cases hattr : f.attr with
    | none =>
      rw [hattr] at h
      exact ih h
    | some attr =>
      rw [hattr] at h
      obtain ⟨id, hid, h⟩ := bind_eq_ok h
      simp only [hid, ok_bind]
      by_cases hbin : id ≠ roomSearchableBinAttrExternal1Id
      · exact ⟨false, by rw [if_pos hbin]; rfl⟩
      · rw [if_neg hbin] at h ⊢
        cases hop' : Operator.fromU8 op with
        | none => exact ⟨false, rfl⟩
        | some op' =>
          rw [hop'] at h
          cases op' with
          | eq =>
            dsimp only at h ⊢
            split at h
            · obtain ⟨b, hb⟩ := ih h
              split
              · exact ⟨b, hb⟩
              · exact ⟨false, rfl⟩
            · cases h
          | ne =>
            dsimp only at h ⊢
            split at h
            · cases h
            · obtain ⟨b, hb⟩ := ih h
              split
              · exact ⟨false, rfl⟩
              · exact ⟨b, hb⟩
          | lt => cases h
          | le => cases h
          | gt => cases h
          | ge => cases h

theorem isMatchAll_decides {room : Room} {req : SearchRoomRequest}
    (h : room.isMatchAll req = .ok true) (room' : Room) : ∃ b, room'.isMatchAll req = .ok b := by
  rw [isMatchAll, ← matchesInt_eq, ← matchesBin_eq] at h ⊢
  obtain ⟨ints, hints, h⟩ := bind_eq_ok h
  cases ints with
  | false => cases h
  | true =>
    obtain ⟨b, hb⟩ := matchesInt_decides hints room'
    obtain ⟨b', hb'⟩ := matchesBin_decides h room'
    rw [hb, ok_bind]
    cases b with
    | false => exact ⟨false, rfl⟩
    | true => exact ⟨b', hb'⟩

theorem isMatchAll_of_isMatch {room : Room} {req : SearchRoomRequest}
    (h : room.isMatch req = .ok true) : room.isMatchAll req = .ok true := by
  rw [isMatch_eq] at h
  split at h
  · exact h
  · cases h

end Room

namespace RoomManager

theorem matchingRooms_all {req : SearchRoomRequest}
    (h : m.matchingRooms comId req ids = .ok rooms) {room : Room} (hroom : room ∈ rooms) :
    ∃ rooms', m.matchingRoomsAll comId req ids = .ok rooms' ∧ room ∈ rooms' := by
  rw [matchingRooms_eq_loop] at h
  obtain ⟨all, hall, -, rfl⟩ := searchLoop_eq_ok.mp h
  obtain ⟨hmem, hhit⟩ := List.mem_filter.mp hroom
  have hhit := Room.isMatchAll_of_isMatch (of_decide_eq_true hhit)
  rw [matchingRoomsAll_eq_loop]
  refine ⟨_, searchLoop_eq_ok.mpr ⟨all, hall, ?_, rfl⟩, ?_⟩
  · exact fun room' _ => Room.isMatchAll_decides hhit room'
  · exact List.mem_filter.mpr ⟨hmem, decide_eq_true hhit⟩

end RoomManager

/-! ## 4. Agreement -/

theorem RoomUser.role_eq_owner (u : RoomUser) :
    u.toRoomMemberDataExternal.role = Uint8.newFromValue roleOwner ↔ u.isOwner = true := by
  unfold toRoomMemberDataExternal isOwner
  by_cases h : u.flagAttr &&& roomMemberFlagAttrOwner ≠ 0
  · simp [h]
  · simp [not_not.mp h, Uint8.newFromValue]

namespace Room

theorem users_toList_sorted : room.users.toList.Pairwise fun a b => a.1 < b.1 :=
  ExtTreeMap.ordered_keys_toList.imp fun h => Std.compare_eq_lt.mp h

theorem Wf.countP_owner {room : Room} (h : room.Wf) :
    (room.users.toList.map (·.2.toRoomMemberDataExternal)).countP
      (·.role = Uint8.newFromValue roleOwner) = 1 := by
  obtain ⟨owner, ho⟩ := h.owner.owner_mem
  rw [List.countP_map, TreeMap.countP_erase _ ho]
  have hrest : (room.users.erase room.owner).toList.countP
      ((fun u : RoomMemberDataExternal => decide (u.role = Uint8.newFromValue roleOwner)) ∘
        fun p => p.2.toRoomMemberDataExternal) = 0 := by
    refine List.countP_eq_zero.mpr fun p hp => ?_
    rw [ExtTreeMap.mem_toList_iff_getElem?_eq_some] at hp
    rw [TreeMap.getElem?_erase] at hp
    split at hp
    · cases hp
    · rename_i hne
      rw [Function.comp_apply, decide_eq_true_iff, RoomUser.role_eq_owner, h.owner.isOwner_iff hp]
      exact hne
  rw [hrest, if_pos]
  rw [Function.comp_apply, decide_eq_true_iff, RoomUser.role_eq_owner, h.owner.isOwner_iff ho]

end Room

def plainSearch (worldId : UInt32) (lobbyId : UInt64) : SearchRoomRequest where
  option := 0
  worldId
  lobbyId
  rangeFilterStartIndex := 1
  rangeFilterMax := 20
  flagFilter := 0
  flagAttr := 0
  intFilter := []
  binFilter := []
  attrId := []

/-- **`SearchRoom` and `SearchRoomAll` agree.** `is_match` is no for a room that is hidden or has
    other flags than wanted, and `is_match_all` in its result, error or panic for any other. The
    second encoder adds to the first the members in the order of their ids, one of whom has the
    owner's role in every stored room of every run. A room found by the one search is found by the
    other. -/
theorem searchRoomAll_agrees {es : List (RoomOp × RoomOutcome)} {m : RoomManager}
    (h : roomSystem.Run es m) :
    (∀ (room : Room) (req : SearchRoomRequest),
      (¬ room.PassesFlags req → room.isMatch req = .ok false) ∧
      (room.PassesFlags req → room.isMatch req = room.isMatchAll req)) ∧
    (∀ (room : Room) (searchOption : Int32) (incAttrs : List UInt16),
      ∃ members : List (UInt16 × RoomUser), members.Pairwise (fun a b => a.1 < b.1) ∧
        (∀ mid u, (mid, u) ∈ members ↔ room.users[mid]? = some u) ∧
        room.toRoomDataExternalAll searchOption incAttrs =
          (fun rd => { rd with users := members.map (·.2.toRoomMemberDataExternal) }) <$>
            room.toRoomDataExternal searchOption incAttrs) ∧
    (∀ key (room : Room), m.rooms.get? key = some room →
      ∀ (searchOption : Int32) (incAttrs : List UInt16) rd,
        room.toRoomDataExternalAll searchOption incAttrs = .ok rd →
        rd.users.countP (·.role = Uint8.newFromValue roleOwner) = 1) ∧
    (∀ (comId : ComId) (req : SearchRoomRequest) (ids : List UInt64) (rooms : List Room),
      m.matchingRooms comId req ids = .ok rooms → ∀ room ∈ rooms,
        ∃ rooms', m.matchingRoomsAll comId req ids = .ok rooms' ∧ room ∈ rooms') := by
  refine ⟨?_, ?_, ?_, ?_⟩
  · intro room req
    rw [Room.isMatch_eq]
    exact ⟨fun hfail => if_neg hfail, fun hpass => if_pos hpass⟩
  · intro room searchOption incAttrs
    refine ⟨room.users.toList, room.users_toList_sorted, ?_,
      room.toRoomDataExternalAll_eq searchOption incAttrs⟩
    exact fun mid u => ExtTreeMap.mem_toList_iff_getElem?_eq_some
  · intro key room hr searchOption incAttrs rd hrd
    rw [Room.toRoomDataExternalAll_eq] at hrd
    obtain ⟨rd', -, hrd⟩ := Outcome.bind_eq_ok hrd
    cases hrd
    exact ((inv_of_run h).wf hr).countP_owner
  · intro comId req ids rooms hrooms room hroom
    exact RoomManager.matchingRooms_all hrooms hroom

theorem searchRoomAll_agrees_opened :
    ∃ es m, roomSystem.Run es m ∧ ∃ rooms,
      m.matchingRooms zeroComId (plainSearch 1 0) [1] = .ok rooms ∧ rooms ≠ [] ∧ ∀ room ∈ rooms,
        ∃ rooms', m.matchingRoomsAll zeroComId (plainSearch 1 0) [1] = .ok rooms' ∧
          room ∈ rooms' := by
  have hrun := System.Run.step openRoomForTwo (System.Run.start (M := roomSystem)) trivial
  obtain ⟨room, hr⟩ := Option.isSome_iff_exists.mp
    (show ((openRoomForTwo.call RoomManager.new).2.rooms.get? (zeroComId, 1)).isSome = true by
      decide)
  have hhit : room.isMatch (plainSearch 1 0) = .ok true := by
    have e : ((openRoomForTwo.call RoomManager.new).2.rooms.get? (zeroComId, 1)).map
        (·.isMatch (plainSearch 1 0)) = some (.ok true) := by decide
    rw [hr] at e
    exact Option.some.inj e
  have hfound : (openRoomForTwo.call RoomManager.new).2.matchingRooms zeroComId
      (plainSearch 1 0) [1] = .ok [room] := by
    rw [RoomManager.matchingRooms_eq_loop]
    refine RoomManager.searchLoop_eq_ok.mpr ⟨[room], by rw [List.map_singleton, hr]; rfl, ?_, ?_⟩
    · intro r hmem
      obtain rfl := List.mem_singleton.mp hmem
      exact ⟨true, hhit⟩
    · simp [hhit]
  refine ⟨_, _, hrun, [room], hfound, List.cons_ne_nil _ _, ?_⟩
  exact (searchRoomAll_agrees hrun).2.2.2 zeroComId (plainSearch 1 0) [1] [room] hfound

end Rpcn
