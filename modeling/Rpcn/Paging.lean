/-
  File:      Rpcn/Paging.lean
  Subject:   THE PAGES OF A SEARCH: `search_room`, `search_room_all` (room_manager.rs) and
             `get_room_list_gui` (gui_room_manager.rs).

  All three collect the rooms that match, count them into a `u32`, and show a range that starts at a
  `u32` counted from 1. So a client that asks page by page sees each room once as long as the number
  of rooms, and the start of the page after the last one, fit 32 bits; with 2^32 rooms the total
  shown is 0.
-/
import Rpcn.Gui.Manager
import Rpcn.Room.Findable

namespace Rpcn

open Lib Np2Structs Paging Outcome

/-! ## 1. One page of a search -/

/-- The request for page `k`, in pages of `size`. -/
def Np2Structs.SearchRoomRequest.pageAt (req : SearchRoomRequest) (size : UInt32) (k : Nat) :
    SearchRoomRequest :=
  { req with
    rangeFilterStartIndex := (k * size.toNat + 1).toUInt32
    rangeFilterMax := size }

variable {m : RoomManager} {comId : ComId} {ids : List UInt64}

namespace RoomManager

variable {β : Type}

theorem matchingRooms_pageAt (m : RoomManager) (comId : ComId) (req : SearchRoomRequest)
    (size : UInt32) (k : Nat) (ids : List UInt64) :
    m.matchingRooms comId (req.pageAt size k) ids = m.matchingRooms comId req ids := by
  rw [matchingRooms_eq_loop, matchingRooms_eq_loop]
  rfl

theorem matchingRoomsAll_pageAt (m : RoomManager) (comId : ComId) (req : SearchRoomRequest)
    (size : UInt32) (k : Nat) (ids : List UInt64) :
    m.matchingRoomsAll comId (req.pageAt size k) ids = m.matchingRoomsAll comId req ids := by
  rw [matchingRoomsAll_eq_loop, matchingRoomsAll_eq_loop]
  rfl

variable {req : SearchRoomRequest} {encode : List UInt16 → Room → SearchOutcome β}
  {matching : List Room} {size : UInt32}

theorem showPage_slice {incAttrs : List UInt16} {shown : List β}
    (hinc : req.incAttrs = .ok incAttrs) (hshown : matching.mapM (encode incAttrs) = .ok shown)
    (hlen : matching.length = shown.length) (h1 : 1 ≤ size) (h20 : size ≤ 20) {k : Nat}
    (hk : k * size.toNat + 1 < 2 ^ 32) :
    showPage (req.pageAt size k) encode matching = .ok (slice shown size.toNat k) := by
  have hstart : (req.pageAt size k).startIndex.toNat = k * size.toNat + 1 := first_page hk
  have hmax : (req.pageAt size k).max = size := limit_of_le h1 h20
  have hinc' : (req.pageAt size k).incAttrs = .ok incAttrs := hinc
  rw [showPage, hstart, hmax, Nat.add_sub_cancel]
  split
  · rw [hinc', ok_bind, hlen]
    show ((matching.drop _).take _).mapM _ = _
    rw [mapM_take (mapM_drop hshown _), take_min_eq_slice]
  · rw [slice, List.drop_of_length_le (by omega), List.take_nil]
    rfl

theorem showPage_nil (req : SearchRoomRequest) (encode : List UInt16 → Room → SearchOutcome β) :
    showPage req encode [] = .ok [] := by
  have hpos := one_le_first req.rangeFilterStartIndex
  rw [showPage, if_neg]
  · rfl
  · show ¬ 0 ≥ (first req.rangeFilterStartIndex).toNat
    omega

theorem showPage_pages
    (hencode : ∀ incAttrs, ∀ room ∈ matching, ∃ b, encode incAttrs room = .ok b)
    (hfirst : (showPage (req.pageAt size 0) encode matching).isOk = true) (h1 : 1 ≤ size)
    (h20 : size ≤ 20) (hlen : matching.length + size.toNat < 2 ^ 32) :
    ∃ shown, (matching = [] ∧ shown = [] ∨
        ∃ incAttrs, matching.mapM (encode incAttrs) = .ok shown) ∧
      shown.length = matching.length ∧
      ∀ k, k * size.toNat < shown.length + size.toNat →
        showPage (req.pageAt size k) encode matching = .ok (slice shown size.toNat k) := by
  by_cases hnil : matching = []
  · refine ⟨[], Or.inl ⟨hnil, rfl⟩, by rw [hnil]; rfl, fun k _ => ?_⟩
    rw [hnil, showPage_nil, slice, List.drop_nil, List.take_nil]
  · have hinc : ∃ incAttrs, req.incAttrs = .ok incAttrs := by
      have hstart : (req.pageAt size 0).startIndex.toNat = 0 * size.toNat + 1 :=
        first_page (by omega)
      have hpos : matching.length ≥ 1 := List.length_pos_iff.mpr hnil
      rw [showPage, hstart, if_pos (by omega)] at hfirst
      cases h : req.incAttrs with
      | ok incAttrs => exact ⟨incAttrs, rfl⟩
      | err e =>
        rw [show (req.pageAt size 0).incAttrs = .err e from h] at hfirst
        cases hfirst
      | panic p =>
        rw [show (req.pageAt size 0).incAttrs = .panic p from h] at hfirst
        cases hfirst
    obtain ⟨incAttrs, hinc⟩ := hinc
    obtain ⟨shown, hshown⟩ := mapM_ok (hencode incAttrs)
    have hsame : shown.length = matching.length := by
      have h := mapM_map_eq (p := fun _ => ()) (q := fun _ => ()) hshown fun _ _ _ => rfl
      simpa using congrArg List.length h
    refine ⟨shown, Or.inr ⟨incAttrs, hshown⟩, hsame, fun k hk => ?_⟩
    have hsize : 1 ≤ size.toNat := h1
    exact showPage_slice hinc hshown hsame.symm h1 h20 (by omega)

/-! ## 2. All pages -/

theorem Inv.searchLoop_sublist (hinv : m.Inv) {test : Room → SearchOutcome Bool}
    {rooms : List Room} (h : m.searchLoop comId test ids = .ok rooms) :
    (rooms.map (·.roomId)).Sublist ids := by
  induction ids generalizing rooms with
  | nil =>
    cases h
    exact List.Sublist.refl _
  | cons i ids ih =>
    obtain ⟨room, hroom, h⟩ := bind_eq_ok h
    obtain ⟨hit, _, h⟩ := bind_eq_ok h
    obtain ⟨others, hothers, h⟩ := bind_eq_ok h
    cases h
    have hid : room.roomId = i := hinv.roomId (unwrap_eq_ok hroom)
    cases hit with
    | false => exact (ih hothers).cons i
    | true =>
      show (room.roomId :: others.map (·.roomId)).Sublist (i :: ids)
      rw [hid]
      exact (ih hothers).cons_cons i

theorem shown_ids {shown : List β} {idOf : β → UInt64}
    (hid : ∀ incAttrs (room : Room) b, encode incAttrs room = .ok b → idOf b = room.roomId)
    (h : matching = [] ∧ shown = [] ∨ ∃ incAttrs, matching.mapM (encode incAttrs) = .ok shown) :
    shown.map idOf = matching.map (·.roomId) := by
  rcases h with ⟨rfl, rfl⟩ | ⟨incAttrs, h⟩
  · rfl
  · exact mapM_map_eq h (hid incAttrs)

theorem toNat_length {l : List Room} (h : l.length + size.toNat < 2 ^ 32) :
    l.length.toUInt32.toNat = l.length :=
  UInt32.toNat_ofNat_of_lt' (Nat.lt_of_le_of_lt (Nat.le_add_right _ _) h)

theorem showPage_answers {ρ : Type} {ask : Nat → SearchOutcome ρ} {answer : Nat → List β → ρ}
    {total : ρ → UInt32} {rooms : ρ → List β} {idOf : β → UInt64}
    (hask : ∀ k, ask k = (do
      let shown ← showPage (req.pageAt size k) encode matching
      return answer k shown))
    (htotal : ∀ k shown, total (answer k shown) = matching.length.toUInt32)
    (hrooms : ∀ k shown, rooms (answer k shown) = shown)
    (hencode : ∀ incAttrs, ∀ room ∈ matching, ∃ b, encode incAttrs room = .ok b)
    (hid : ∀ incAttrs (room : Room) b, encode incAttrs room = .ok b → idOf b = room.roomId)
    (h1 : 1 ≤ size) (h20 : size ≤ 20) (hlen : matching.length + size.toNat < 2 ^ 32)
    (hfirst : (ask 0).isOk = true) :
    ∃ (shown : List β) (n : Nat) (page : Nat → List β),
      shown.map idOf = matching.map (·.roomId) ∧
      Pages (fun k => (ask k).toOption.map fun reply => ((total reply).toNat, rooms reply))
        size.toNat shown n page := by
  rw [hask, isOk_bind_pure] at hfirst
  obtain ⟨shown, hshown, hsame, hpages⟩ := showPage_pages hencode hfirst h1 h20 hlen
  refine ⟨shown, _, _, shown_ids hid hshown, pages_of_slices h1 fun k hk => ?_⟩
  rw [hask, hpages k hk, hsame, ok_bind]
  show some ((total (answer k _)).toNat, rooms (answer k _)) = _
  rw [htotal, hrooms, toNat_length hlen]

theorem Inv.searchRoom_pages (hinv : m.Inv)
    (hrooms : m.matchingRooms comId req ids = .ok matching) (h1 : 1 ≤ size) (h20 : size ≤ 20)
    (hlen : matching.length + size.toNat < 2 ^ 32)
    (hfirst : (m.searchRoom comId (req.pageAt size 0) ids).isOk = true) :
    ∃ (shown : List RoomDataExternal) (n : Nat) (page : Nat → List RoomDataExternal),
      shown.map (·.roomId) = matching.map (·.roomId) ∧
      Pages (fun k => (m.searchRoom comId (req.pageAt size k) ids).toOption.map
        fun reply => (reply.total.toNat, reply.rooms)) size.toNat shown n page := by
  have hask : ∀ k, m.searchRoom comId (req.pageAt size k) ids = (do
      let shown ← showPage (req.pageAt size k)
        (fun incAttrs r => r.toRoomDataExternal req.option incAttrs) matching
      return ⟨(req.pageAt size k).startIndex, matching.length.toUInt32, shown⟩) := by
    intro k
    rw [searchRoom_eq, matchingRooms_pageAt, hrooms, ok_bind]
    rfl
  refine showPage_answers hask (fun _ _ => rfl) (fun _ _ => rfl) ?_
    (fun _ _ _ h => Room.toRoomDataExternal_roomId h) h1 h20 hlen hfirst
  intro incAttrs room hroom
  rw [matchingRooms_eq_loop] at hrooms
  exact (hinv.searchLoop_wf hrooms room hroom).exists_toRoomDataExternal req.option incAttrs

theorem Inv.searchRoomAll_pages (hinv : m.Inv)
    (hrooms : m.matchingRoomsAll comId req ids = .ok matching) (h1 : 1 ≤ size) (h20 : size ≤ 20)
    (hlen : matching.length + size.toNat < 2 ^ 32)
    (hfirst : (m.searchRoomAll comId (req.pageAt size 0) ids).isOk = true) :
    ∃ (shown : List RoomDataExternalAll) (n : Nat) (page : Nat → List RoomDataExternalAll),
      shown.map (·.roomId) = matching.map (·.roomId) ∧
      Pages (fun k => (m.searchRoomAll comId (req.pageAt size k) ids).toOption.map
        fun reply => (reply.total.toNat, reply.rooms)) size.toNat shown n page := by
  have hask : ∀ k, m.searchRoomAll comId (req.pageAt size k) ids = (do
      let shown ← showPage (req.pageAt size k)
        (fun incAttrs r => r.toRoomDataExternalAll req.option incAttrs) matching
      return ⟨(req.pageAt size k).startIndex, matching.length.toUInt32, shown⟩) := by
    intro k
    rw [searchRoomAll_eq, matchingRoomsAll_pageAt, hrooms, ok_bind]
    rfl
  refine showPage_answers hask (fun _ _ => rfl) (fun _ _ => rfl) ?_ ?_ h1 h20 hlen hfirst
  · intro incAttrs room hroom
    rw [matchingRoomsAll_eq_loop] at hrooms
    exact (hinv.searchLoop_wf hrooms room hroom).exists_toRoomDataExternalAll req.option incAttrs
  · intro incAttrs room rdAll hall
    rw [Room.toRoomDataExternalAll_eq] at hall
    obtain ⟨rd, hrd, hall⟩ := bind_eq_ok hall
    cases hall
    exact Room.toRoomDataExternal_roomId hrd

end RoomManager

/-- The request for page `k`, in pages of `size`. -/
def Np2Structs.GetRoomListGuiRequest.pageAt (req : GetRoomListGuiRequest) (size : UInt32)
    (k : Nat) : GetRoomListGuiRequest :=
  { req with
    rangeStart := (k * size.toNat + 1).toUInt32
    rangeMax := size }

variable {order : List GuiRoomId} {found : List (GuiRoomId × GuiRoom)}

namespace GuiRoomManager

theorem matchingRooms_sublist {m : GuiRoomManager} {conds : List MatchingSearchCondition}
    (h : m.matchingRooms conds order = .ok found) : (found.map (·.1)).Sublist order := by
  induction order generalizing found with
  | nil =>
    cases h
    exact List.Sublist.refl _
  | cons roomId rest ih =>
    rw [matchingRooms] at h
    cases hr : m.rooms.get? roomId with
    | none =>
      rw [hr] at h
      cases h
    | some room =>
      simp only [hr] at h
      obtain ⟨others, hothers, h⟩ := except_bind_ok h
      cases h
      by_cases hit : room.isMatch conds false
      · rw [if_pos hit]
        exact (ih hothers).cons_cons roomId
      · rw [if_neg hit]
        exact (ih hothers).cons roomId

theorem getRoomListGui_pages {m : GuiRoomManager} {req : GetRoomListGuiRequest} {size : UInt32}
    (horder : Orders order (m.comidRooms.setAt comId))
    (hfound : m.matchingRooms req.conds order = .ok found) (h1 : 1 ≤ size) (h20 : size ≤ 20)
    (hlen : found.length + size.toNat < 2 ^ 32) :
    ∃ (shown : List MatchingRoom) (n : Nat) (page : Nat → List MatchingRoom),
      shown.map (·.id) = found.map (·.1.toList) ∧
      Pages (fun k => (m.getRoomListGui comId (req.pageAt size k) order).toOption.map
        fun reply => (reply.total.toNat, reply.rooms)) size.toNat shown n page := by
  -- a com id without a set of rooms has no rooms to list
  have hnone : m.comidRooms.get? comId = none → found = [] := by
    intro hget
    have hempty : m.comidRooms.setAt comId = ∅ := by
      rw [HashMap.setAt, hget]
      rfl
    rw [hempty] at horder
    rw [(List.toFinset_eq_empty_iff order).mp horder.2] at hfound
    cases hfound
    rfl
  let shown := found.map fun p => p.2.genMatchingRoom p.1 (GuiRoom.parsedAttrs req.attrs)
  have hsame : shown.length = found.length := List.length_map _
  refine ⟨shown, _, _, ?_, pages_of_slices h1 fun k hk => ?_⟩
  · rw [List.map_map]
    rfl
  · have hsize : 1 ≤ size.toNat := h1
    have hstart : (if (req.pageAt size k).rangeStart = 0 then 1
        else (req.pageAt size k).rangeStart).toNat = k * size.toNat + 1 := first_page (by omega)
    have hmax : (if (req.pageAt size k).rangeMax = 0 ∨ (req.pageAt size k).rangeMax > 20 then 20
        else (req.pageAt size k).rangeMax) = size := limit_of_le h1 h20
    have hpage : (if found.length ≥ k * size.toNat + 1 then
        (found.drop (k * size.toNat + 1 - 1)).take size.toNat else []) =
          slice found size.toNat k := by
      rw [Nat.add_sub_cancel]
      split
      · rfl
      · rw [slice, List.drop_of_length_le (by omega), List.take_nil]
    have hreply : m.getRoomListGui comId (req.pageAt size k) order =
        .ok ⟨first (req.pageAt size k).rangeStart, found.length.toUInt32,
          (slice found size.toNat k).map fun p =>
            p.2.genMatchingRoom p.1 (GuiRoom.parsedAttrs req.attrs)⟩ := by
      rw [getRoomListGui]
      simp only [hstart, hmax]
      cases hget : m.comidRooms.get? comId with
      | none =>
        rw [hnone hget] at hpage ⊢
        show Except.ok _ = _
        rw [hpage]
        rfl
      | some rooms =>
        simp only [show m.matchingRooms (req.pageAt size k).conds order = .ok found from hfound]
        show Except.ok _ = _
        rw [hpage]
        rfl
    have htotal : found.length.toUInt32.toNat = found.length :=
      UInt32.toNat_ofNat_of_lt' (Nat.lt_of_le_of_lt (Nat.le_add_right _ _) hlen)
    rw [hreply, hsame, slice, slice, List.map_take, List.map_drop]
    exact congrArg (fun total => some (total, _)) htotal

end GuiRoomManager

theorem exists_run_filling (n : Nat) :
    ∃ es m, roomSystem.Run es m ∧ (handedOut es).length = n ∧
      (∀ key ∈ handedOut es, key.1 = zeroComId) ∧
      (∀ i, i ∈ m.searchList zeroComId (plainSearch 1 0) ↔ (zeroComId, i) ∈ handedOut es) ∧
      ∀ key (room : Room), m.rooms.get? key = some room →
        room.flagAttr &&& roomFlagAttrHidden = 0 := by
  induction n with
  | zero =>
    refine ⟨[], _, .start, rfl, fun _ h => absurd h List.not_mem_nil, fun i => ?_, ?_⟩
    · exact ⟨fun h => absurd h (Finset.notMem_empty i), fun h => absurd h List.not_mem_nil⟩
    · intro key room hr
      cases hr
  | succ n ih =>
    obtain ⟨es, m, hrun, hlen, hcom, hlisted, hflags⟩ := ih
    obtain ⟨resp, hresp⟩ := RoomManager.createRoom_plain roomForTwo_creatable rfl rfl m zeroComId
      (player 1) 0
    rcases hcall : RoomManager.createRoom zeroComId roomForTwo (player 1) 0
      ClientSharedSignalingInfo.new 0 m with ⟨o, m'⟩
    rw [hcall] at hresp
    obtain rfl : o = .ok resp := hresp
    obtain ⟨room, rfl, hid, hw, hl, hflag⟩ := RoomManager.createRoom_room hcall
    obtain ⟨es', hrun', hhanded⟩ := run_createRoom hrun hcall
    refine ⟨es', _, hrun', ?_, ?_, ?_, ?_⟩
    · rw [hhanded, List.length_append, hlen]
      rfl
    · intro key hkey
      rw [hhanded] at hkey
      rcases List.mem_append.mp hkey with hkey | hkey
      · exact hcom key hkey
      · rw [List.mem_singleton.mp hkey]
    · intro i
      have hkey : room.indexKey = .world 1 := by
        rw [Room.indexKey, hl, hw]
        rfl
      have hlist : (m.stored zeroComId room (player 1).userId).searchList zeroComId
          (plainSearch 1 0) = insert room.roomId (m.searchList zeroComId (plainSearch 1 0)) := by
        show (m.addIndex zeroComId room.indexKey room.roomId).indexSet zeroComId (.world 1) = _
        rw [hkey, RoomManager.indexSet_addIndex, if_pos ⟨rfl, rfl⟩]
        rfl
      rw [hlist, Finset.mem_insert, hlisted, hhanded, List.mem_append, List.mem_singleton, hid]
      constructor
      · intro h
        exact h.elim (fun e => Or.inr (by rw [e])) Or.inl
      · intro h
        exact h.elim Or.inr fun e => Or.inl (Prod.mk.inj e).2
    · intro key r hget
      have hget : (m.rooms.insert (zeroComId, room.roomId) room).get? key = some r := hget
      rw [HashMap.get?_insert] at hget
      split at hget
      · cases hget
        exact hflag
      · exact hflags key r hget

end Rpcn
