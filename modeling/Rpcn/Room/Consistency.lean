/-
  File:      Rpcn/Room/Consistency.lean
  Subject:   THE INDEXES OF THE ROOM MANAGER SAY EXACTLY WHAT IS STORED, over whole runs.

  `Inv` gives one half of it in every state: what is stored is filed. The other half, that what is
  filed is stored, needs that a new room never takes the key of an old one. The room counters are
  64-bit and wrap, so this holds exactly as long as no com id was given more than 2^64 rooms.
-/
import Rpcn.Lib.Counter
import Rpcn.Room.Reachable

namespace Rpcn

open Lib Np2Structs HashMap RoomManager
open Std (ExtTreeMap)

def handedOut (es : List (RoomOp × RoomOutcome)) : List (ComId × UInt64) := es.filterMap handed

variable {m m' : RoomManager} {key : ComId × UInt64} {room : Room} {comId : ComId}
  {roomId : UInt64} {op : RoomOp} {given : List (ComId × UInt64)}

namespace RoomManager

/-! ## 1. What is filed is stored -/

structure Exact (m : RoomManager) : Prop where
  named : ∀ {c : ComId} {k : IndexKey} {i : UInt64}, i ∈ m.indexSet c k →
    ∃ r, m.rooms.get? (c, i) = some r ∧ r.indexKey = k
  listed : ∀ {key : ComId × UInt64} {userId : UserId}, key ∈ m.userRooms.setAt userId →
    ∃ r, m.rooms.get? key = some r ∧ userId ∈ r.getRoomUserIds

theorem exact_new : Exact new where
  named {c k i} h := by cases k <;> simp [indexSet, new] at h
  listed h := by simp [new] at h

theorem Exact.replace (h : Exact m) {r' : Room} (hr : m.rooms.get? key = some room)
    (hsame : room.SameRoom r') (hrooms : m'.rooms = m.rooms.insert key r')
    (hw : m'.worldRooms = m.worldRooms) (hl : m'.lobbyRooms = m.lobbyRooms)
    (hself : ∀ userId, key ∈ m'.userRooms.setAt userId → userId ∈ r'.getRoomUserIds)
    (hother : ∀ key' userId, key' ≠ key → key' ∈ m'.userRooms.setAt userId →
      key' ∈ m.userRooms.setAt userId) : Exact m' where
  named {c k i} hi := by
    rw [indexSet_congr hw hl] at hi
    obtain ⟨r, hget, hk⟩ := h.named hi
    rw [hrooms, get?_insert]
    by_cases e : (c, i) = key
    · rw [if_pos e]
      refine ⟨r', rfl, ?_⟩
      rw [e, hr] at hget
      rw [SameRoom.indexKey hsame, Option.some.inj hget, hk]
    · rw [if_neg e]
      exact ⟨r, hget, hk⟩
  listed {key' userId} hk := by
    rw [hrooms, get?_insert]
    by_cases e : key' = key
    · rw [if_pos e]
      rw [e] at hk
      exact ⟨r', rfl, hself userId hk⟩
    · rw [if_neg e]
      exact h.listed (hother key' userId e hk)

theorem Exact.stored (h : Exact m) {req : CreateJoinRoomRequest} {cinfo : ClientInfo}
    (hf : room.Founded req cinfo roomId) (hfresh : m.rooms.get? (comId, roomId) = none) :
    Exact (m.stored comId room cinfo.userId) := by
  obtain rfl := hf.roomId
  -- what was stored before is stored still: the new key is not one of the old
  have keep : ∀ {key r}, m.rooms.get? key = some r →
      (m.stored comId room cinfo.userId).rooms.get? key = some r := by
    intro key r hget
    show (m.rooms.insert (comId, room.roomId) room).get? key = some r
    rw [get?_insert, if_neg]
    · exact hget
    · rintro rfl
      rw [hfresh] at hget
      cases hget
  have self := m.stored_self comId room cinfo.userId
  have old : ∀ {c k i}, i ∈ m.indexSet c k →
      ∃ r, (m.stored comId room cinfo.userId).rooms.get? (c, i) = some r ∧ r.indexKey = k := by
    intro c k i hi
    obtain ⟨r, hget, hk⟩ := h.named hi
    exact ⟨r, keep hget, hk⟩
  have oldUser : ∀ {key userId}, key ∈ m.userRooms.setAt userId →
      ∃ r, (m.stored comId room cinfo.userId).rooms.get? key = some r ∧
        userId ∈ r.getRoomUserIds := by
    intro key userId hk
    obtain ⟨r, hget, hu⟩ := h.listed hk
    exact ⟨r, keep hget, hu⟩
  constructor
  · intro c k i hi
    have hi' : i ∈ (m.addIndex comId room.indexKey room.roomId).indexSet c k := by
      rwa [indexSet_congr rfl rfl] at hi
    rw [indexSet_addIndex] at hi'
    split at hi'
    · rename_i e
      obtain ⟨rfl, rfl⟩ := e
      rcases Finset.mem_insert.mp hi' with rfl | hi'
      · exact ⟨room, self, rfl⟩
      · exact old hi'
    · exact old hi'
  · intro key userId hk
    have hk' : key ∈ (m.userRooms.addTo cinfo.userId (comId, room.roomId)).setAt userId := hk
    rw [setAt_addTo] at hk'
    split at hk'
    · rename_i e
      subst e
      rcases Finset.mem_insert.mp hk' with rfl | hk'
      · exact ⟨room, self, by rw [hf.getRoomUserIds]; exact Finset.mem_singleton_self _⟩
      · exact oldUser hk'
    · exact oldUser hk'

theorem Exact.destroyed (h : Exact m) {userId : UserId}
    (hr : m.rooms.get? (comId, roomId) = some room) (hids : room.getRoomUserIds = {userId}) :
    Exact ((m.removeRoom comId room.indexKey roomId).withdraw userId (comId, roomId)) := by
  have keep : ∀ {key r}, key ≠ (comId, roomId) → m.rooms.get? key = some r →
      ((m.removeRoom comId room.indexKey roomId).withdraw userId (comId, roomId)).rooms.get? key =
        some r := by
    intro key r hne hget
    show (m.rooms.remove (comId, roomId)).get? key = some r
    rw [get?_remove, if_neg hne]
    exact hget
  constructor
  · intro c k i hi
    rw [indexSet_withdraw, indexSet_removeRoom] at hi
    have hi' : i ∈ m.indexSet c k := by
      split at hi
      · rename_i e
        rw [e.1, e.2]
        exact Finset.mem_of_mem_erase hi
      · exact hi
    obtain ⟨r, hget, hk⟩ := h.named hi'
    refine ⟨r, keep (fun e => ?_) hget, hk⟩
    -- the removed room is filed under its own key only, and taken out there
    obtain ⟨rfl, rfl⟩ := Prod.mk.inj e
    rw [hr] at hget
    obtain rfl := Option.some.inj hget
    rw [if_pos ⟨rfl, hk.symm⟩] at hi
    exact Finset.notMem_erase _ _ hi
  · intro key userId' hk
    rw [setAt_withdraw, userRooms_removeRoom] at hk
    have hk' : key ∈ m.userRooms.setAt userId' := by
      split at hk
      · rename_i e
        rw [e]
        exact Finset.mem_of_mem_erase hk
      · exact hk
    obtain ⟨r, hget, hu⟩ := h.listed hk'
    refine ⟨r, keep (fun e => ?_) hget, hu⟩
    subst e
    rw [hr] at hget
    obtain rfl := Option.some.inj hget
    rw [hids, Finset.mem_singleton] at hu
    rw [if_pos hu] at hk
    exact Finset.notMem_erase _ _ hk

theorem Exact.change {given : Option (ComId × UInt64)} (hI : Inv m) (h : Exact m)
    (hc : Change m op given m') (hfresh : ∀ key, given = some key → m.rooms.get? key = none) :
    Exact m' := by
  cases hc with
  | quiet _ _ hr hw hl hu _ =>
    constructor
    · intro c k i hi
      rw [indexSet_congr hw hl] at hi
      rw [hr]
      exact h.named hi
    · intro key userId hk
      rw [hu] at hk
      rw [hr]
      exact h.listed hk
  | founded comId req cinfo serverId sig now room hf => exact h.stored hf (hfresh _ rfl)
  | touched _ key room r' hr hwf hsame hids =>
    refine h.replace hr hsame rfl rfl rfl ?_ fun _ _ _ hk => hk
    intro userId hk
    obtain ⟨r, hget, hu⟩ := h.listed hk
    rw [hr] at hget
    rw [hids, Option.some.inj hget]
    exact hu
  | joined comId req cinfo sig now room r' hr hwf hsame hids =>
    have hid : room.roomId = req.roomId := hI.roomId hr
    have hset : ∀ userId, (m.joined (comId, req.roomId) room r' cinfo.userId).userRooms.setAt
        userId = if userId = cinfo.userId then
          insert (comId, req.roomId) (m.userRooms.setAt cinfo.userId)
        else m.userRooms.setAt userId := by
      intro userId
      rw [← hid]
      exact setAt_addTo _ _ _ _
    refine h.replace hr hsame rfl rfl rfl ?_ ?_
    · intro userId hk
      rw [hids, Finset.mem_insert]
      by_cases e : userId = cinfo.userId
      · exact Or.inl e
      · rw [hset, if_neg e] at hk
        obtain ⟨r, hget, hu⟩ := h.listed hk
        rw [hr] at hget
        rw [Option.some.inj hget]
        exact Or.inr hu
    · intro key' userId hne hk
      rw [hset] at hk
      split at hk
      · rename_i e
        rw [e]
        exact (Finset.mem_insert.mp hk).resolve_left hne
      · exact hk
  | left comId roomId userId random room r' hr hwf hsame hids hne =>
    refine h.replace hr hsame rfl rfl rfl ?_ ?_
    · intro userId' hk
      rw [setAt_withdraw] at hk
      split at hk
      · exact absurd hk (Finset.notMem_erase _ _)
      · rename_i e
        obtain ⟨r, hget, hu⟩ := h.listed hk
        rw [hr] at hget
        obtain rfl := Option.some.inj hget
        rw [hids]
        exact Finset.mem_erase.mpr ⟨e, hu⟩
    · intro key' userId' hne hk
      rw [setAt_withdraw] at hk
      split at hk
      · rename_i e
        rw [e]
        exact Finset.mem_of_mem_erase hk
      · exact hk
  | destroyed comId roomId userId random room hr hids => exact h.destroyed hr hids
  | stray comId roomId userId random room hr hin hnot =>
    -- an exact list names no room its user is not in
    obtain ⟨r, hget, hu⟩ := h.listed hin
    rw [hr] at hget
    rw [← Option.some.inj hget] at hu
    exact absurd hu hnot

/-! ## 2. The ids handed out -/

structure Ledger (given : List (ComId × UInt64)) (m : RoomManager) : Prop where
  numbered : Numbered given
  cnt : ∀ c, m.cnt c = UInt64.ofNat (uses given c)
  stored : ∀ {key : ComId × UInt64} {r : Room}, m.rooms.get? key = some r → key ∈ given

theorem Ledger.next (h : Ledger given m) (c : ComId) :
    m.cnt c + 1 = UInt64.ofNat (uses given c + 1) := by
  rw [h.cnt, UInt64.ofNat_add]
  rfl

theorem cnt_stored (m : RoomManager) (comId : ComId) (room : Room) (userId : UserId) (c : ComId) :
    (m.stored comId room userId).cnt c = if c = comId then room.roomId else m.cnt c := by
  show ((m.roomCnt.insert comId room.roomId).get? c).getD 0 = _
  rw [get?_insert]
  split <;> rfl

theorem Ledger.keep (h : Ledger given m) (hcnt : m'.roomCnt = m.roomCnt)
    (hkeys : ∀ {key r'}, m'.rooms.get? key = some r' → ∃ r, m.rooms.get? key = some r) :
    Ledger (given ++ (none : Option (ComId × UInt64)).toList) m' := by
  rw [Option.toList_none, List.append_nil]
  refine ⟨h.numbered, fun c => ?_, fun hget => ?_⟩
  · rw [RoomManager.cnt, hcnt]
    exact h.cnt c
  · obtain ⟨r, hr⟩ := hkeys hget
    exact h.stored hr

theorem keys_putRoom {key' : ComId × UInt64} {r' r'' : Room} (hr : m.rooms.get? key = some room)
    (h : (m.rooms.insert key r').get? key' = some r'') : ∃ r, m.rooms.get? key' = some r := by
  rw [get?_insert] at h
  split at h
  · rename_i e
    exact ⟨room, e ▸ hr⟩
  · exact ⟨r'', h⟩

theorem roomCnt_removeRoom (m : RoomManager) (c : ComId) (k : IndexKey) (i : UInt64) :
    (m.removeRoom c k i).roomCnt = m.roomCnt := by
  cases k <;> rfl

theorem Ledger.change {new : Option (ComId × UInt64)} (h : Ledger given m)
    (hc : Change m op new m') : Ledger (given ++ new.toList) m' := by
  cases hc with
  | quiet _ _ hr hw hl hu hcnt =>
    rw [Option.toList_none, List.append_nil]
    exact ⟨h.numbered, fun c => (hcnt c).trans (h.cnt c), fun hget => h.stored (hr ▸ hget)⟩
  | founded comId req cinfo serverId sig now room hf =>
    rw [Option.toList_some, h.next]
    refine ⟨h.numbered.snoc comId, fun c => ?_, fun {key r} hget => ?_⟩
    · rw [cnt_stored, uses_append, uses_singleton, hf.roomId, h.next]
      by_cases e : c = comId
      · rw [if_pos e, if_pos e.symm, e]
      · rw [if_neg e, if_neg (Ne.symm e), Nat.add_zero, h.cnt]
    · have hget : (m.rooms.insert (comId, room.roomId) room).get? key = some r := hget
      rw [get?_insert] at hget
      rw [List.mem_append, List.mem_singleton, ← h.next, ← hf.roomId]
      split at hget
      · rename_i e
        exact Or.inr e
      · exact Or.inl (h.stored hget)
  | touched _ key room r' hr hwf hsame hids => exact h.keep rfl fun hget => keys_putRoom hr hget
  | joined comId req cinfo sig now room r' hr hwf hsame hids =>
    exact h.keep rfl fun hget => keys_putRoom hr hget
  | left comId roomId userId random room r' hr hwf hsame hids hne =>
    exact h.keep rfl fun hget => keys_putRoom hr hget
  | destroyed comId roomId userId random room hr hids =>
    refine h.keep (roomCnt_removeRoom _ _ _ _) fun {key r'} hget => ⟨r', ?_⟩
    have hget : (m.rooms.remove (comId, roomId)).get? key = some r' := hget
    rw [get?_remove] at hget
    split at hget
    · cases hget
    · exact hget
  | stray comId roomId userId random room hr hin hnot => exact h.keep rfl fun hget => ⟨_, hget⟩

end RoomManager

theorem handedOut_snoc (es : List (RoomOp × RoomOutcome)) (e : RoomOp × RoomOutcome) :
    handedOut (es ++ [e]) = handedOut es ++ (handed e).toList := by
  rw [handedOut, List.filterMap_append]
  cases h : handed e <;> simp [h, handedOut]

variable {es : List (RoomOp × RoomOutcome)}

theorem ledger_of_run (h : roomSystem.Run es m) : m.Ledger (handedOut es) := by
  refine h.history (I := fun es m => m.Ledger (handedOut es)) ?_ ?_
  · exact ⟨.nil, fun c => rfl, fun hget => by cases hget⟩
  · intro es m op hrun hI _
    rw [handedOut_snoc]
    exact hI.change (call_change (inv_of_run hrun) op)

theorem exact_of_run (h : roomSystem.Run es m) (hb : ∀ c, uses (handedOut es) c ≤ 2 ^ 64) :
    m.Exact := by
  refine h.history (I := fun es m => (∀ c, uses (handedOut es) c ≤ 2 ^ 64) → m.Exact) ?_ ?_ hb
  · exact fun _ => exact_new
  · intro es m op hrun hI _ hb
    have hinv := inv_of_run hrun
    have hled := ledger_of_run hrun
    have hchange := call_change hinv op
    rw [handedOut_snoc] at hb
    refine Exact.change hinv (hI fun c => ?_) hchange fun key hkey => ?_
    · exact le_trans (uses_le_append _ _ c) (hb c)
    · -- the id handed out in this step is not among those handed out before
      have hn : (handedOut es ++ [key]).Nodup := by
        have hnum := (hled.change hchange).numbered.nodup_iff.mpr hb
        rwa [show handed (op, (op.call m).1) = some key from hkey] at hnum
      by_contra hget
      obtain ⟨r, hr⟩ := Option.ne_none_iff_exists'.mp hget
      exact (List.nodup_append.mp hn).2.2 key (hled.stored hr) key (List.mem_singleton_self key) rfl

/-! ## 3. Consistency -/

/-- **The four maps of the room manager agree**, in every state of every run in which no com id was
    given more than 2^64 rooms. A room is filed in exactly one index set, the one its world or
    lobby names; a user's list holds exactly the rooms the user is in, once each; a room carries
    its own id; and no id was handed out twice. -/
theorem roomManager_indexes_consistent {es : List (RoomOp × RoomOutcome)} {m : RoomManager}
    (h : roomSystem.Run es m) (hb : ∀ c, uses (handedOut es) c ≤ 2 ^ 64) :
    (∀ c i, (∃ room, m.rooms.get? (c, i) = some room) ↔ ∃! k, i ∈ m.indexSet c k) ∧
    (∀ c k i, i ∈ m.indexSet c k ↔
      ∃ room, m.rooms.get? (c, i) = some room ∧ room.indexKey = k) ∧
    (∀ key userId, key ∈ m.userRooms.setAt userId ↔ ∃ (room : Room) (mid : UInt16) (u : RoomUser),
      m.rooms.get? key = some room ∧ room.users[mid]? = some u ∧ u.userId = userId) ∧
    (∀ key (room : Room), m.rooms.get? key = some room →
      ∀ (mid mid' : UInt16) (u u' : RoomUser), room.users[mid]? = some u →
        room.users[mid']? = some u' → u.userId = u'.userId → mid = mid') ∧
    (∀ c i room, m.rooms.get? (c, i) = some room → room.roomId = i) ∧
    (handedOut es).Nodup := by
  have hinv := inv_of_run h
  have hex := exact_of_run h hb
  have hfiled : ∀ c k i, i ∈ m.indexSet c k ↔
      ∃ room, m.rooms.get? (c, i) = some room ∧ room.indexKey = k := by
    intro c k i
    refine ⟨hex.named, ?_⟩
    rintro ⟨room, hr, rfl⟩
    exact hinv.indexed hr
  refine ⟨fun c i => ?_, hfiled, fun key userId => ?_, ?_, ?_, ?_⟩
  · constructor
    · rintro ⟨room, hr⟩
      refine ⟨room.indexKey, hinv.indexed hr, fun k hk => ?_⟩
      obtain ⟨room', hr', hk'⟩ := hex.named hk
      rw [hr] at hr'
      rw [Option.some.inj hr', hk']
    · rintro ⟨k, hk, _⟩
      obtain ⟨room, hr, _⟩ := hex.named hk
      exact ⟨room, hr⟩
  · constructor
    · intro hk
      obtain ⟨room, hr, hu⟩ := hex.listed hk
      obtain ⟨mid, u, hm, hid⟩ := Room.mem_getRoomUserIds.mp hu
      exact ⟨room, mid, u, hr, hm, hid⟩
    · rintro ⟨room, mid, u, hr, hm, hid⟩
      exact hinv.member hr (Room.mem_getRoomUserIds.mpr ⟨mid, u, hm, hid⟩)
  · intro key room hr mid mid' u u' hm hm' e
    exact (hinv.wf hr).user_inj hm hm' e
  · intro c i room hr
    exact hinv.roomId hr
  · exact (ledger_of_run h).numbered.nodup_iff.mpr hb

theorem uses_openRoomForTwo (c : ComId) : uses (handedOut ([] ++
    [(openRoomForTwo, (roomSystem.step roomSystem.init openRoomForTwo).1)])) c ≤ 2 ^ 64 :=
  le_trans (List.countP_le_length.trans (List.length_filterMap_le _ _)) (by decide)

theorem roomManager_indexes_consistent_opened :
    ∃ es m, roomSystem.Run es m ∧ (∀ c, uses (handedOut es) c ≤ 2 ^ 64) ∧
      (m.rooms.get? (zeroComId, 1)).isSome = true ∧ (handedOut es).Nodup := by
  have hrun := System.Run.step openRoomForTwo (System.Run.start (M := roomSystem)) trivial
  exact ⟨_, _, hrun, uses_openRoomForTwo, by decide,
    (roomManager_indexes_consistent hrun uses_openRoomForTwo).2.2.2.2.2⟩

theorem exists_run_opening (n : Nat) :
    ∃ es m, roomSystem.Run es m ∧ uses (handedOut es) zeroComId = n := by
  induction n with
  | zero => exact ⟨[], _, .start, rfl⟩
  | succ n ih =>
    obtain ⟨es, m, hrun, hn⟩ := ih
    refine ⟨_, _, hrun.step openRoomForTwo trivial, ?_⟩
    obtain ⟨i, hi⟩ := handed_openRoomForTwo m
    rw [handedOut_snoc, uses_append, hn]
    show n + uses (handed (openRoomForTwo, (openRoomForTwo.call m).1)).toList zeroComId = n + 1
    rw [hi, Option.toList_some, uses_singleton, if_pos rfl]

/-- **The counter goes round**: after 2^64 + 1 rooms of one com id an id was handed out twice. -/
theorem roomManager_reuses_room_id :
    ∃ es m, roomSystem.Run es m ∧ ¬ (handedOut es).Nodup := by
  obtain ⟨es, m, hrun, hn⟩ := exists_run_opening (2 ^ 64 + 1)
  refine ⟨es, m, hrun, fun hnodup => ?_⟩
  have := (ledger_of_run hrun).numbered.nodup_iff.mp hnodup zeroComId
  omega

end Rpcn
