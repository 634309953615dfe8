/-
  File:      Rpcn/Room/SearchSafety.lean
  Subject:   CAN A SEARCH PANIC?

  A search unwraps the room of every id in an index, the owner of every room it shows, and every
  slot; all three are there in reachable states. What is left is the `panic!` of the filters: a
  client may ask for an order between byte strings, and then the first room that gets as far as that
  filter takes the server down.
-/
import Rpcn.Lib.Paging
import Rpcn.Room.Advertised
import Rpcn.Room.Consistency

namespace Rpcn

open Lib Np2Structs Outcome

/-! ## 1. Filters -/

/-- **The filter asks for an order** between the searchable binary attribute and its data. -/
def Np2Structs.BinSearchFilter.Orders (f : BinSearchFilter) : Prop :=
  ∃ op attr o, Uint8.getVerifiedOpt f.searchOperator = .ok op ∧ f.attr = some attr ∧
    Uint16.getVerifiedOpt attr.id = .ok roomSearchableBinAttrExternal1Id ∧
    Operator.fromU8 op = some o ∧ o ≠ .eq ∧ o ≠ .ne

variable (room : Room) (f : BinSearchFilter) (req : SearchRoomRequest)

variable (fs : List BinSearchFilter)

namespace Room

theorem isPanic_matchesInt (fs : List IntSearchFilter) : (room.matchesInt fs).isPanic = false := by
  induction fs with
  | nil => rfl
  | cons f fs ih =>
    rw [matchesInt]
    refine isPanic_bind (isPanic_ofExcept _) fun op _ => ?_
    cases f.attr with
    | none => exact ih
    | some attr =>
      refine isPanic_bind (isPanic_ofExcept _) fun id _ => ?_
      split
      · split
        · exact ih
        · rfl
      · rfl

theorem matchesBin_cons :
    room.matchesBin (f :: fs) = (do
      if ← room.matchesBin [f] then room.matchesBin fs else return false) := by
  rw [matchesBin, matchesBin]
  cases Uint8.getVerifiedOpt f.searchOperator with
  | error e => rfl
  | ok op =>
    cases f.attr with
    | none => rfl
    | some attr =>
      cases hid : Uint16.getVerifiedOpt attr.id with
      | error e =>
        simp only [hid]
        rfl
      | ok id =>
        simp only [hid]
        by_cases hbin : id ≠ roomSearchableBinAttrExternal1Id
        · simp only [Outcome.ofExcept, Outcome.ok_bind, if_pos hbin]
          rfl
        · simp only [Outcome.ofExcept, Outcome.ok_bind, if_neg hbin]
          rcases Operator.fromU8 op with _ | o
          · rfl
          · cases room.binEquality attr.data <;> cases o <;> rfl

theorem matchesBin_singleton_isPanic_iff : (room.matchesBin [f]).isPanic = true ↔ f.Orders := by
  constructor
  · intro h
    rw [matchesBin] at h
    cases hop : Uint8.getVerifiedOpt f.searchOperator with
    | error e =>
      rw [hop] at h
      cases h
    | ok op =>
      rw [hop] at h
      cases hattr : f.attr with
      | none =>
        rw [hattr] at h
        cases h
      | some attr =>
        rw [hattr] at h
        cases hid : Uint16.getVerifiedOpt attr.id with
        | error e =>
          simp only [hid] at h
          cases h
        | ok id =>
          simp only [hid, Outcome.ofExcept, Outcome.ok_bind] at h
          by_cases hbin : id ≠ roomSearchableBinAttrExternal1Id
          · rw [if_pos hbin] at h
            cases h
          · rw [if_neg hbin] at h
            cases hfrom : Operator.fromU8 op with
            | none =>
              rw [hfrom] at h
              cases h
            | some o =>
              rw [hfrom] at h
              refine ⟨op, attr, o, hop, hattr, not_not.mp hbin ▸ hid, hfrom, ?_, ?_⟩
              · intro e
                subst e
                cases he : room.binEquality attr.data <;> simp [he, matchesBin] at h <;>
                  cases h
              · intro e
                subst e
                cases he : room.binEquality attr.data <;> simp [he, matchesBin] at h <;>
                  cases h
  · intro h
    obtain ⟨op, attr, o, hop, hattr, hid, hfrom, hne, hne'⟩ := h
    rw [matchesBin, hop, hattr]
    simp only [hid, Outcome.ofExcept, Outcome.ok_bind, hfrom]
    cases o with
    | eq => exact absurd rfl hne
    | ne => exact absurd rfl hne'
    | lt => rfl
    | le => rfl
    | gt => rfl
    | ge => rfl

theorem matchesBin_isPanic_iff :
    (room.matchesBin fs).isPanic = true ↔
      ∃ pre f post, fs = pre ++ f :: post ∧ room.matchesBin pre = .ok true ∧ f.Orders := by
  induction fs with
  | nil =>
    constructor
    · intro h
      cases h
    · intro h
      obtain ⟨pre, f, post, e, -, -⟩ := h
      simp at e
  | cons g fs ih =>
    have hone := room.matchesBin_singleton_isPanic_iff g
    rw [matchesBin_cons]
    constructor
    · intro h
      cases hg : room.matchesBin [g] with
      | err e =>
        rw [hg] at h
        cases h
      | panic p => exact ⟨[], g, fs, rfl, rfl, hone.mp (by rw [hg]; rfl)⟩
      | ok b =>
        cases b with
        | false =>
          rw [hg] at h
          cases h
        | true =>
          rw [hg] at h
          obtain ⟨pre, f, post, e, hpre, hf⟩ := ih.mp h
          refine ⟨g :: pre, f, post, by rw [e]; rfl, ?_, hf⟩
          rw [matchesBin_cons, hg]
          exact hpre
    · intro h
      obtain ⟨pre, f, post, e, hpre, hf⟩ := h
      cases pre with
      | nil =>
        obtain ⟨rfl, -⟩ := List.cons.inj e
        cases hg : room.matchesBin [g] with
        | panic p => rfl
        | ok b =>
          have hp := hone.mpr hf
          rw [hg] at hp
          cases hp
        | err e =>
          have hp := hone.mpr hf
          rw [hg] at hp
          cases hp
      | cons g' pre =>
        obtain ⟨rfl, rfl⟩ := List.cons.inj e
        rw [matchesBin_cons] at hpre
        obtain ⟨b, hb, hpre⟩ := bind_eq_ok hpre
        cases b with
        | false => cases hpre
        | true =>
          rw [hb]
          exact ih.mpr ⟨pre, f, post, rfl, hpre, hf⟩

/-- **The room gets as far as a filter that asks for an order**: it passes the integer filters and
    the binary filters before. -/
def Crashes (room : Room) (req : SearchRoomRequest) : Prop :=
  room.matchesInt req.intFilter = .ok true ∧
    ∃ pre f post, req.binFilter = pre ++ f :: post ∧ room.matchesBin pre = .ok true ∧ f.Orders

theorem isMatchAll_isPanic_iff : (room.isMatchAll req).isPanic = true ↔ room.Crashes req := by
  rw [isMatchAll, ← matchesInt_eq, ← matchesBin_eq, Crashes, ← matchesBin_isPanic_iff]
  have hints := room.isPanic_matchesInt req.intFilter
  cases h : room.matchesInt req.intFilter with
  | panic p =>
    rw [h] at hints
    cases hints
  | err e => exact ⟨fun h => (by cases h), fun h => (by cases h.1)⟩
  | ok b =>
    cases b with
    | false => exact ⟨fun h => (by cases h), fun h => (by cases h.1)⟩
    | true => exact ⟨fun h => ⟨rfl, h⟩, fun h => h.2⟩

theorem isMatch_isPanic_iff :
    (room.isMatch req).isPanic = true ↔ room.PassesFlags req ∧ room.Crashes req := by
  rw [isMatch_eq]
  by_cases h : room.PassesFlags req
  · rw [if_pos h, isMatchAll_isPanic_iff]
    exact ⟨fun hc => ⟨h, hc⟩, fun hc => hc.2⟩
  · rw [if_neg h]
    exact ⟨fun hc => (by cases hc), fun hc => absurd hc.1 h⟩

theorem matchesBin_ne_err {room : Room} {pre post : List BinSearchFilter} {f : BinSearchFilter}
    (hpre : room.matchesBin pre = .ok true) (hf : f.Orders) (room' : Room) (e : ErrorType) :
    room'.matchesBin (pre ++ f :: post) ≠ .err e := by
  induction pre with
  | nil =>
    have hp := (room'.matchesBin_singleton_isPanic_iff f).mpr hf
    rw [List.nil_append, matchesBin_cons]
    cases hg : room'.matchesBin [f] with
    | panic p => exact fun h => by cases h
    | ok b =>
      rw [hg] at hp
      cases hp
    | err e =>
      rw [hg] at hp
      cases hp
  | cons g pre ih =>
    rw [matchesBin_cons] at hpre
    obtain ⟨b, hb, hpre⟩ := bind_eq_ok hpre
    cases b with
    | false => cases hpre
    | true =>
      obtain ⟨b', hb'⟩ := matchesBin_decides hb room'
      rw [List.cons_append, matchesBin_cons, hb', ok_bind]
      cases b' with
      | false => exact fun h => by cases h
      | true => exact ih hpre

theorem Crashes.isMatchAll_ne_err {room : Room} {req : SearchRoomRequest} (h : room.Crashes req)
    (room' : Room) (e : ErrorType) : room'.isMatchAll req ≠ .err e := by
  obtain ⟨hints, pre, f, post, hbin, hpre, hf⟩ := h
  obtain ⟨b, hb⟩ := matchesInt_decides hints room'
  rw [isMatchAll, ← matchesInt_eq, ← matchesBin_eq, hb, ok_bind]
  cases b with
  | false => exact fun h => by cases h
  | true =>
    rw [hbin]
    exact matchesBin_ne_err hpre hf room' e

theorem Crashes.isMatch_ne_err {room : Room} {req : SearchRoomRequest} (h : room.Crashes req)
    (room' : Room) (e : ErrorType) : room'.isMatch req ≠ .err e := by
  rw [isMatch_eq]
  split
  · exact h.isMatchAll_ne_err room' e
  · exact fun h => by cases h

theorem Wf.exists_toRoomDataExternal {room : Room} (h : room.Wf) (searchOption : Int32)
    (incAttrs : List UInt16) : ∃ rd, room.toRoomDataExternal searchOption incAttrs = .ok rd := by
  obtain ⟨n, hn⟩ := h.slotNums_ok
  obtain ⟨rd, hrd, -⟩ := h.toRoomDataExternal_ok hn searchOption incAttrs
  exact ⟨rd, hrd⟩

theorem Wf.exists_toRoomDataExternalAll {room : Room} (h : room.Wf) (searchOption : Int32)
    (incAttrs : List UInt16) :
    ∃ rd, room.toRoomDataExternalAll searchOption incAttrs = .ok rd := by
  obtain ⟨rd, hrd⟩ := h.exists_toRoomDataExternal searchOption incAttrs
  rw [toRoomDataExternalAll_eq, hrd]
  exact ⟨_, rfl⟩

theorem Wf.maxPrivateSlots_le {room : Room} (h : room.Wf) {n : SlotNums}
    (hn : room.slotNums = .ok n) : n.maxPrivateSlots ≤ room.maxSlot := by
  by_cases hpw : room.roomPassword.isSome
  · rw [slotNums_of_password hpw h.slots.maxSlot_le h.slots.slots_length] at hn
    cases hn
    rw [UInt16.le_iff_toNat_le]
    show (countSlotsOf _ _).toUInt16.toNat ≤ _
    rw [toNat_countSlotsOf _ h.slots.maxSlot_le]
    exact countSlotsOf_le _ _
  · rw [slotNums_of_public hpw] at hn
    cases hn
    exact UInt16.zero_le

end Room

/-! ## 2. The loops over an index -/

variable {m : RoomManager} {test : Room → SearchOutcome Bool}

namespace RoomManager

theorem searchLoop_isPanic_iff {comId : ComId} {ids : List UInt64}
    (hids : ∀ i ∈ ids, ∃ room, m.rooms.get? (comId, i) = some room)
    (herr : ∀ room room' e, (test room).isPanic = true → test room' ≠ .err e) :
    (m.searchLoop comId test ids).isPanic = true ↔
      ∃ i ∈ ids, ∃ room, m.rooms.get? (comId, i) = some room ∧ (test room).isPanic = true := by
  induction ids with
  | nil => simp [searchLoop, pure, isPanic]
  | cons i ids ih =>
    obtain ⟨room, hr⟩ := hids i List.mem_cons_self
    have ih := ih fun j hj => hids j (List.mem_cons_of_mem _ hj)
    rw [searchLoop, hr, unwrap_some, ok_bind]
    cases ht : test room with
    | panic p => exact ⟨fun _ => ⟨i, List.mem_cons_self, room, hr, by rw [ht]; rfl⟩, fun _ => rfl⟩
    | err e =>
      refine ⟨fun h => (by cases h), fun h => ?_⟩
      obtain ⟨-, -, room', -, hp⟩ := h
      exact absurd ht (herr room' room e hp)
    | ok hit =>
      rw [ok_bind, isPanic_bind_pure, ih]
      constructor
      · intro h
        obtain ⟨j, hj, hroom⟩ := h
        exact ⟨j, List.mem_cons_of_mem _ hj, hroom⟩
      · intro h
        obtain ⟨j, hj, room', hr', hp⟩ := h
        rcases List.mem_cons.mp hj with rfl | hj
        · rw [hr] at hr'
          cases hr'
          rw [ht] at hp
          cases hp
        · exact ⟨j, hj, room', hr', hp⟩

theorem Exact.searchList (h : m.Exact) {comId : ComId} {req : SearchRoomRequest} {i : UInt64}
    (hi : i ∈ m.searchList comId req) : ∃ room, m.rooms.get? (comId, i) = some room := by
  have hfiled : ∃ k, i ∈ m.indexSet comId k := by
    rw [RoomManager.searchList] at hi
    split at hi
    · exact ⟨.world req.worldId, hi⟩
    · split at hi
      · exact ⟨.lobby req.lobbyId, hi⟩
      · exact absurd hi (Finset.notMem_empty i)
  obtain ⟨k, hk⟩ := hfiled
  obtain ⟨room, hr, -⟩ := h.named hk
  exact ⟨room, hr⟩

theorem Inv.searchLoop_wf (h : m.Inv) {comId : ComId} {ids : List UInt64} {rooms : List Room}
    (hloop : m.searchLoop comId test ids = .ok rooms) : ∀ room ∈ rooms, room.Wf := by
  intro room hroom
  obtain ⟨⟨i, -, hi⟩, -⟩ := (mem_searchLoop hloop).mp hroom
  exact h.wf hi

variable {β : Type}

/-- The range of the rooms found that a search shows, with the encoder as a parameter. -/
def showPage (req : SearchRoomRequest) (encode : List UInt16 → Room → SearchOutcome β)
    (matching : List Room) : SearchOutcome (List β) :=
  if matching.length ≥ req.startIndex.toNat then do
    let incAttrs ← req.incAttrs
    let start := req.startIndex.toNat - 1
    let numToGet := min (matching.length - start) req.max.toNat
    ((matching.drop start).take numToGet).mapM (encode incAttrs)
  else
    return []

theorem searchRoom_eq (m : RoomManager) (comId : ComId) (req : SearchRoomRequest)
    (ids : List UInt64) : m.searchRoom comId req ids = (do
      let matching ← m.matchingRooms comId req ids
      let rooms ← showPage req (fun incAttrs r => r.toRoomDataExternal req.option incAttrs) matching
      return ⟨req.startIndex, matching.length.toUInt32, rooms⟩) := by
  rw [searchRoom]
  refine bind_congr fun matching => ?_
  rw [showPage]
  split
  · rw [bind_assoc]
  · rfl

theorem searchRoomAll_eq (m : RoomManager) (comId : ComId) (req : SearchRoomRequest)
    (ids : List UInt64) : m.searchRoomAll comId req ids = (do
      let matching ← m.matchingRoomsAll comId req ids
      let rooms ←
        showPage req (fun incAttrs r => r.toRoomDataExternalAll req.option incAttrs) matching
      return ⟨req.startIndex, matching.length.toUInt32, rooms⟩) := by
  rw [searchRoomAll]
  refine bind_congr fun matching => ?_
  rw [showPage]
  split
  · rw [bind_assoc]
  · rfl

theorem isPanic_showPage {γ : Type} {req : SearchRoomRequest} {loop : SearchOutcome (List Room)}
    {encode : List UInt16 → Room → SearchOutcome β} (answer : List Room → List β → γ)
    (hencode : ∀ rooms, loop = .ok rooms → ∀ incAttrs, ∀ room ∈ rooms,
      ∃ b, encode incAttrs room = .ok b) :
    (do
      let matching ← loop
      let rooms ← showPage req encode matching
      return answer matching rooms : SearchOutcome γ).isPanic = loop.isPanic := by
  cases hloop : loop with
  | err e => rfl
  | panic p => rfl
  | ok matching =>
    rw [ok_bind, isPanic_bind_pure, showPage]
    show _ = false
    split
    · refine isPanic_bind (isPanic_ofExcept _) fun incAttrs _ => ?_
      refine isPanic_mapM fun room hroom => ?_
      obtain ⟨b, hb⟩ := hencode matching hloop incAttrs room
        (List.mem_of_mem_drop (List.mem_of_mem_take hroom))
      rw [hb]
      rfl
    · rfl

theorem Inv.searchRoom_isPanic (h : m.Inv) (comId : ComId) (req : SearchRoomRequest)
    (ids : List UInt64) :
    (m.searchRoom comId req ids).isPanic = (m.matchingRooms comId req ids).isPanic := by
  rw [searchRoom_eq, matchingRooms_eq_loop]
  exact isPanic_showPage _ fun rooms hloop incAttrs room hroom =>
    (h.searchLoop_wf hloop room hroom).exists_toRoomDataExternal req.option incAttrs

theorem Inv.searchRoomAll_isPanic (h : m.Inv) (comId : ComId) (req : SearchRoomRequest)
    (ids : List UInt64) :
    (m.searchRoomAll comId req ids).isPanic = (m.matchingRoomsAll comId req ids).isPanic := by
  rw [searchRoomAll_eq, matchingRoomsAll_eq_loop]
  exact isPanic_showPage _ fun rooms hloop incAttrs room hroom =>
    (h.searchLoop_wf hloop room hroom).exists_toRoomDataExternalAll req.option incAttrs

theorem Inv.isPanic_getRoomdataExternalList (h : m.Inv) (comId : ComId)
    (req : GetRoomDataExternalListRequest) :
    (m.getRoomdataExternalList comId req).isPanic = false := by
  refine isPanic_bind (isPanic_ofExcept _) fun incAttrs _ => ?_
  refine isPanic_bind (isPanic_mapM fun i hi => ?_) fun _ _ => rfl
  obtain ⟨room, hr⟩ := Option.isSome_iff_exists.mp (List.mem_filter.mp hi).2
  obtain ⟨rd, hrd⟩ := (h.wf hr).exists_toRoomDataExternal 7 incAttrs
  rw [hr, unwrap_some, ok_bind, hrd]
  rfl

end RoomManager

theorem Np2Structs.SearchRoomRequest.range_le {len : Nat} (h : len ≥ req.startIndex.toNat) :
    1 ≤ req.startIndex.toNat ∧ req.startIndex.toNat - 1 ≤ len ∧
      req.startIndex.toNat - 1 + min (len - (req.startIndex.toNat - 1)) req.max.toNat ≤ len :=
  Paging.range_le req.rangeFilterStartIndex req.rangeFilterMax 20 h

/-! ## 3. Panics -/

/-- **When a search panics.** In every state of every run, if no com id was given more than 2^64
    rooms, and for every request and every order of the index: `search_room` and `search_room_all`
    panic exactly if among the rooms they go through (those with the right flags, for the first)
    one gets as far as a binary filter with an order. Rooms asked for by their ids are always
    answered. No shift, subtraction or range of a search is out of bounds. -/
theorem search_panics_iff {es : List (RoomOp × RoomOutcome)} {m : RoomManager}
    (h : roomSystem.Run es m) (hb : ∀ c, uses (handedOut es) c ≤ 2 ^ 64) :
    (∀ (comId : ComId) (req : SearchRoomRequest) (ids : List UInt64),
      (∀ i ∈ ids, i ∈ m.searchList comId req) →
      ((m.searchRoom comId req ids).isPanic = true ↔
        ∃ i ∈ ids, ∃ room, m.rooms.get? (comId, i) = some room ∧ room.PassesFlags req ∧
          room.Crashes req) ∧
      ((m.searchRoomAll comId req ids).isPanic = true ↔
        ∃ i ∈ ids, ∃ room, m.rooms.get? (comId, i) = some room ∧ room.Crashes req)) ∧
    (∀ (comId : ComId) (req : GetRoomDataExternalListRequest),
      (m.getRoomdataExternalList comId req).isPanic = false) ∧
    (∀ key (room : Room), m.rooms.get? key = some room → room.maxSlot.toNat ≤ 64 ∧
      room.slots.length = room.maxSlot.toNat ∧
      ∀ n, room.slotNums = .ok n → n.maxPrivateSlots ≤ room.maxSlot) ∧
    (∀ (req : SearchRoomRequest) (len : Nat), len ≥ req.startIndex.toNat →
      1 ≤ req.startIndex.toNat ∧ req.startIndex.toNat - 1 ≤ len ∧
        req.startIndex.toNat - 1 + min (len - (req.startIndex.toNat - 1)) req.max.toNat ≤ len) := by
  have hinv := inv_of_run h
  have hex := exact_of_run h hb
  refine ⟨?_, hinv.isPanic_getRoomdataExternalList, ?_, fun req _ hlen => req.range_le hlen⟩
  · intro comId req ids hids
    have hstored : ∀ i ∈ ids, ∃ room, m.rooms.get? (comId, i) = some room :=
      fun i hi => hex.searchList (hids i hi)
    constructor
    · rw [hinv.searchRoom_isPanic, RoomManager.matchingRooms_eq_loop,
        RoomManager.searchLoop_isPanic_iff hstored]
      · simp only [Room.isMatch_isPanic_iff]
      · intro room room' e hp
        exact ((room.isMatch_isPanic_iff req).mp hp).2.isMatch_ne_err room' e
    · rw [hinv.searchRoomAll_isPanic, RoomManager.matchingRoomsAll_eq_loop,
        RoomManager.searchLoop_isPanic_iff hstored]
      · simp only [Room.isMatchAll_isPanic_iff]
      · intro room room' e hp
        exact ((room.isMatchAll_isPanic_iff req).mp hp).isMatchAll_ne_err room' e
  · intro key room hr
    have hwf := hinv.wf hr
    exact ⟨hwf.slots.maxSlot_le, hwf.slots.slots_length, fun n hn => hwf.maxPrivateSlots_le hn⟩

def binSearch (op : UInt32) : SearchRoomRequest :=
  { plainSearch 1 0 with binFilter := [⟨some ⟨op⟩, some ⟨some ⟨0x54⟩, []⟩⟩] }

theorem search_panics_iff_equal :
    ∃ es m, roomSystem.Run es m ∧ (∀ c, uses (handedOut es) c ≤ 2 ^ 64) ∧
      1 ∈ m.searchList zeroComId (binSearch 1) ∧
      (m.searchRoom zeroComId (binSearch 1) [1]).isPanic = false := by
  have hrun := System.Run.step openRoomForTwo (System.Run.start (M := roomSystem)) trivial
  have hlisted : 1 ∈ (openRoomForTwo.call RoomManager.new).2.searchList zeroComId (binSearch 1) := by
    decide
  refine ⟨_, _, hrun, uses_openRoomForTwo, hlisted, ?_⟩
  have hids : ∀ i ∈ [(1 : UInt64)], i ∈ (openRoomForTwo.call RoomManager.new).2.searchList zeroComId
      (binSearch 1) := fun i hi => List.mem_singleton.mp hi ▸ hlisted
  have hmain := ((search_panics_iff hrun uses_openRoomForTwo).1 zeroComId (binSearch 1) [1] hids).1
  rw [← Bool.not_eq_true, hmain]
  intro hcrash
  obtain ⟨-, -, room, -, -, -, pre, f, post, hbin, -, op, attr, o, hop, -, -, hfrom, hne, -⟩ := hcrash
  have hf : f ∈ (binSearch 1).binFilter := by
    rw [hbin]
    exact List.mem_append_right _ List.mem_cons_self
  obtain rfl := List.mem_singleton.mp hf
  cases hop
  cases hfrom
  exact hne rfl

/-- **A search takes the server down**: with one room open, a search for a binary attribute less
    than some bytes panics, in both forms. -/
theorem search_panics :
    ∃ es m, roomSystem.Run es m ∧ (m.searchList zeroComId (binSearch 3)) = {1} ∧
      m.searchRoom zeroComId (binSearch 3) [1] = .panic .binOperator ∧
      m.searchRoomAll zeroComId (binSearch 3) [1] = .panic .binOperator :=
  ⟨_, _, System.Run.step openRoomForTwo (System.Run.start (M := roomSystem)) trivial,
    by decide, rfl, rfl⟩

end Rpcn
