/-
  File:      Rpcn/Room/Findable.lean
  Subject:   IS A NEW ROOM FOUND? `get_corresponding_server` (database.rs), `req_create_room`
             (cmd_room.rs) and the searches.

  A creation files a room under its lobby if it has one, else under its world. A search looks into
  the world if it names one, else into the lobby. And the tables are asked for the world first, so
  a request that names both is accepted.
-/
import Rpcn.Room.SearchSafety

namespace Rpcn

open Lib Np2Structs

/-! ## 1. The tables of worlds and lobbies -/

/-- The tables `world` and `lobby`, with their primary keys: of a world the server, of a lobby the
    world. A lobby id is stored as the `i64` of its bits. -/
structure ServerTables where
  world : HashMap (List UInt8 × UInt32) UInt16
  lobby : HashMap (List UInt8 × Int64) UInt32

inductive LookupError where
  | invalidQuery
  | queryReturnedNoRows
  deriving DecidableEq, Repr

def LookupError.row {α : Type} : Option α → Except LookupError α
  | some a => .ok a
  | none => .error .queryReturnedNoRows

def ServerTables.getCorrespondingServer (t : ServerTables) (comId : ComId) (worldId : UInt32)
    (lobbyId : UInt64) : Except LookupError UInt16 := do
  let comIdStr := comIdToString comId
  if worldId = 0 ∧ lobbyId = 0 then throw .invalidQuery
  let worldId ←
    if worldId = 0 then LookupError.row (t.lobby.get? (comIdStr, lobbyId.toInt64))
    else pure worldId
  LookupError.row (t.world.get? (comIdStr, worldId))

/-- `Client::req_create_room`: the server is looked up, then the room created. -/
def RoomManager.reqCreateRoom (t : ServerTables) (comId : ComId) (req : CreateJoinRoomRequest)
    (cinfo : ClientInfo) (sig : ClientSharedSignalingInfo) (now : UInt64) :
    ManagerCall CreateRoomResponse :=
  match t.getCorrespondingServer comId req.worldId req.lobbyId with
  | .error _ => Call.fail .invalidInput
  | .ok serverId => RoomManager.createRoom comId req cinfo serverId sig now

variable {t : ServerTables} {comId : ComId} {worldId : UInt32} {lobbyId : UInt64}
  {serverId : UInt16}

theorem ServerTables.not_both_zero
    (h : t.getCorrespondingServer comId worldId lobbyId = .ok serverId) :
    ¬ (worldId = 0 ∧ lobbyId = 0) := by
  intro hzero
  rw [getCorrespondingServer, if_pos hzero] at h
  cases h

variable {req : CreateJoinRoomRequest} {cinfo : ClientInfo} {sig : ClientSharedSignalingInfo}
  {now : UInt64} {m m' : RoomManager} {resp : CreateRoomResponse}

theorem RoomManager.reqCreateRoom_eq_ok
    (h : reqCreateRoom t comId req cinfo sig now m = (.ok resp, m')) :
    ∃ serverId, ¬ (req.worldId = 0 ∧ req.lobbyId = 0) ∧
      createRoom comId req cinfo serverId sig now m = (.ok resp, m') := by
  unfold reqCreateRoom at h
  cases hserver : t.getCorrespondingServer comId req.worldId req.lobbyId with
  | error e =>
    rw [hserver] at h
    cases h
  | ok serverId =>
    rw [hserver] at h
    exact ⟨serverId, ServerTables.not_both_zero hserver, h⟩

/-! ## 2. The room created -/

namespace Room

theorem Configured.hidden {r : Room} (h : r.Configured req) :
    r.flagAttr &&& roomFlagAttrHidden = req.flagAttr &&& roomFlagAttrHidden := by
  have hmask : ~~~protectedRoomFlags &&& roomFlagAttrHidden = roomFlagAttrHidden := by decide
  rw [h.flagAttr, UInt32.and_assoc, hmask]

end Room

namespace RoomManager

theorem createRoom_room (h : createRoom comId req cinfo serverId sig now m = (.ok resp, m')) :
    ∃ room, m' = m.stored comId room cinfo.userId ∧ room.roomId = resp.internal.roomId ∧
      room.worldId = req.worldId ∧ room.lobbyId = req.lobbyId ∧
      room.flagAttr &&& roomFlagAttrHidden = req.flagAttr &&& roomFlagAttrHidden := by
  have hs := createRoom_step m comId req cinfo serverId sig now
  rw [h] at hs
  cases hs with
  | created room resp hf hresp =>
    have hself := m.stored_self comId room cinfo.userId
    rw [hf.roomId] at hself
    obtain ⟨conf, hr, hconf⟩ := createRoom_configured h
    obtain ⟨base, u, entered, memberId, groupId, hb, -, hg, hr'⟩ := createRoom_filed h
    have hbase := Room.fromProtobuf_ok hb
    have hgroups := Room.enterFirstGroup_groupsOnly hg
    obtain rfl := Option.some.inj (hself.symm.trans hr)
    have e := Option.some.inj (hself.symm.trans hr')
    refine ⟨room, rfl, hf.roomId.trans hresp.symm, ?_, ?_, hconf.hidden⟩
    · rw [e, hgroups]
      exact hbase.worldId
    · rw [e, hgroups]
      exact hbase.lobbyId

end RoomManager

theorem run_createRoom {es : List (RoomOp × RoomOutcome)} (h : roomSystem.Run es m)
    (hcreate : RoomManager.createRoom comId req cinfo serverId sig now m = (.ok resp, m')) :
    ∃ es', roomSystem.Run es' m' ∧
      handedOut es' = handedOut es ++ [(comId, resp.internal.roomId)] := by
  have hcall : (RoomOp.createRoom comId req cinfo serverId sig now).call m =
      (.ok (.created resp), m') := by
    show Call.mapOk RoomReply.created _ m = _
    rw [Call.mapOk, hcreate]
  have hstep := h.step (.createRoom comId req cinfo serverId sig now) trivial
  rw [show roomSystem.step m (.createRoom comId req cinfo serverId sig now) =
    (.ok (.created resp), m') from hcall] at hstep
  refine ⟨_, hstep, ?_⟩
  rw [handedOut_snoc]
  rfl

/-! ## 3. The search for it -/

structure Np2Structs.SearchRoomRequest.Plain (search : SearchRoomRequest) (worldId : UInt32)
    (lobbyId : UInt64) : Prop where
  worldId : search.worldId = worldId
  lobbyId : search.lobbyId = lobbyId
  flagFilter : search.flagFilter = 0
  flagAttr : search.flagAttr = 0
  intFilter : search.intFilter = []
  binFilter : search.binFilter = []

variable {search : SearchRoomRequest}

theorem Room.isMatch_plain (h : search.Plain worldId lobbyId) (room : Room) :
    room.isMatch search = .ok (room.flagAttr &&& roomFlagAttrHidden = 0) := by
  have hall : room.isMatchAll search = .ok true := by
    rw [isMatchAll, h.intFilter, h.binFilter]
    rfl
  have hflags : room.PassesFlags search ↔ room.flagAttr &&& roomFlagAttrHidden = 0 := by
    rw [PassesFlags, h.flagFilter, h.flagAttr, UInt32.zero_and, UInt32.and_zero]
    exact and_iff_left rfl
  rw [isMatch_eq, hall]
  by_cases hpass : room.PassesFlags search
  · rw [if_pos hpass, decide_eq_true (hflags.mp hpass)]
  · rw [if_neg hpass, decide_eq_false fun e => hpass (hflags.mpr e)]

variable {ids : List UInt64}

namespace RoomManager

theorem searchLoop_total {test : Room → SearchOutcome Bool}
    (hids : ∀ i ∈ ids, ∃ room, m.rooms.get? (comId, i) = some room)
    (htest : ∀ room, ∃ b, test room = .ok b) :
    ∃ rooms, m.searchLoop comId test ids = .ok rooms := by
  induction ids with
  | nil => exact ⟨[], rfl⟩
  | cons i ids ih =>
    obtain ⟨room, hr⟩ := hids i List.mem_cons_self
    obtain ⟨b, hb⟩ := htest room
    obtain ⟨rooms, hrooms⟩ := ih fun j hj => hids j (List.mem_cons_of_mem _ hj)
    rw [searchLoop, hr, Outcome.unwrap_some, Outcome.ok_bind, hb, Outcome.ok_bind, hrooms]
    exact ⟨_, rfl⟩

theorem searchRoom_total {req : SearchRoomRequest} {rooms : List Room}
    {reply : SearchRoomResponse} (hrooms : m.matchingRooms comId req ids = .ok rooms)
    (h : m.searchRoom comId req ids = .ok reply) : reply.total = rooms.length.toUInt32 := by
  rw [searchRoom, hrooms, Outcome.ok_bind] at h
  split at h
  · obtain ⟨incAttrs, -, h⟩ := Outcome.bind_eq_ok h
    obtain ⟨shown, -, h⟩ := Outcome.bind_eq_ok h
    cases h
    rfl
  · cases h
    rfl

theorem Exact.mem_searchList_iff (hinv : m.Inv) (hex : m.Exact) {i : UInt64} {room : Room}
    (hr : m.rooms.get? (comId, i) = some room) (hw : search.worldId = room.worldId)
    (hl : search.lobbyId = room.lobbyId) (hne : ¬ (room.worldId = 0 ∧ room.lobbyId = 0)) :
    i ∈ m.searchList comId search ↔ room.worldId = 0 ∨ room.lobbyId = 0 := by
  have hfiled := hinv.indexed hr
  rw [Room.indexKey] at hfiled
  rw [RoomManager.searchList, hw, hl]
  by_cases hworld : room.worldId = 0
  · have hlobby : room.lobbyId ≠ 0 := fun e => hne ⟨hworld, e⟩
    rw [if_neg hlobby] at hfiled
    rw [if_neg (not_not.mpr hworld), if_pos hlobby]
    exact ⟨fun _ => Or.inl hworld, fun _ => hfiled⟩
  · rw [if_pos hworld]
    by_cases hlobby : room.lobbyId = 0
    · rw [if_pos hlobby] at hfiled
      exact ⟨fun _ => Or.inr hlobby, fun _ => hfiled⟩
    · -- the room stands under its lobby, and under one key only
      refine ⟨fun hi => ?_, fun e => absurd e (not_or.mpr ⟨hworld, hlobby⟩)⟩
      have hi : i ∈ m.indexSet comId (.world room.worldId) := hi
      obtain ⟨room', hr', hkey⟩ := hex.named hi
      rw [hr] at hr'
      obtain rfl := Option.some.inj hr'
      rw [Room.indexKey, if_neg hlobby] at hkey
      cases hkey

end RoomManager

/-- **A new room is found exactly if its request named a world or a lobby, not both.** In every
    state of every run that handed out fewer than 2^64 rooms, for every accepted creation of a room
    that is not hidden, and in whatever order the index is gone through: a search with the same ids
    and no filters returns, its total is the number of rooms found, and the new room is one of them
    exactly if one of the two ids is zero. -/
theorem created_room_found_iff {es : List (RoomOp × RoomOutcome)} {m m' : RoomManager}
    (h : roomSystem.Run es m) (hb : ∀ c, uses (handedOut es) c ≤ 2 ^ 64) {t : ServerTables}
    {comId : ComId} (hnew : uses (handedOut es) comId < 2 ^ 64) {req : CreateJoinRoomRequest}
    {cinfo : ClientInfo} {sig : ClientSharedSignalingInfo} {now : UInt64} {resp : CreateRoomResponse}
    (hcreate : RoomManager.reqCreateRoom t comId req cinfo sig now m = (.ok resp, m'))
    (hhidden : req.flagAttr &&& roomFlagAttrHidden = 0) {search : SearchRoomRequest}
    (hsearch : search.Plain req.worldId req.lobbyId) {ids : List UInt64}
    (hids : ∀ i, i ∈ ids ↔ i ∈ m'.searchList comId search) :
    ∃ rooms, m'.matchingRooms comId search ids = .ok rooms ∧
      (∀ reply, m'.searchRoom comId search ids = .ok reply →
        reply.total = rooms.length.toUInt32) ∧
      ((∃ room ∈ rooms, room.roomId = resp.internal.roomId) ↔
        req.worldId = 0 ∨ req.lobbyId = 0) := by
  obtain ⟨serverId, hne, hrun⟩ := RoomManager.reqCreateRoom_eq_ok hcreate
  obtain ⟨room, hm', hid, hw, hl, hflag⟩ := RoomManager.createRoom_room hrun
  have hr : m'.rooms.get? (comId, resp.internal.roomId) = some room := by
    rw [hm', ← hid]
    exact m.stored_self comId room cinfo.userId
  obtain ⟨es', hrun', hhanded⟩ := run_createRoom h hrun
  have hinv := inv_of_run hrun'
  have hex := exact_of_run hrun' fun c => by
    have hc := hb c
    rw [hhanded, uses_append, uses_singleton]
    split
    · rename_i e
      subst e
      omega
    · omega
  have hstored : ∀ i ∈ ids, ∃ room, m'.rooms.get? (comId, i) = some room :=
    fun i hi => hex.searchList ((hids i).mp hi)
  obtain ⟨rooms, hrooms⟩ := RoomManager.searchLoop_total hstored fun room =>
    ⟨_, room.isMatch_plain hsearch⟩
  rw [← RoomManager.matchingRooms_eq_loop] at hrooms
  refine ⟨rooms, hrooms, fun reply hreply => RoomManager.searchRoom_total hrooms hreply, ?_⟩
  have hlisted := RoomManager.Exact.mem_searchList_iff hinv hex hr (hsearch.worldId.trans hw.symm)
    (hsearch.lobbyId.trans hl.symm) (by rw [hw, hl]; exact hne)
  rw [hw, hl] at hlisted
  rw [← hlisted, ← hids]
  rw [RoomManager.matchingRooms_eq_loop] at hrooms
  constructor
  · intro hfound
    obtain ⟨room', hmem, hid⟩ := hfound
    obtain ⟨⟨i, hi, hr'⟩, -⟩ := (RoomManager.mem_searchLoop hrooms).mp hmem
    rw [hinv.roomId hr'] at hid
    rw [← hid]
    exact hi
  · intro hi
    refine ⟨room, (RoomManager.mem_searchLoop hrooms).mpr ⟨⟨_, hi, hr⟩, ?_⟩, hinv.roomId hr⟩
    rw [room.isMatch_plain hsearch, decide_eq_true (hflag.trans hhidden)]

def oneWorld : ServerTables where
  world := (∅ : HashMap _ _).insert (comIdToString zeroComId, 1) 1
  lobby := (∅ : HashMap _ _).insert (comIdToString zeroComId, 1) 1

theorem plainSearch_plain (worldId : UInt32) (lobbyId : UInt64) :
    (plainSearch worldId lobbyId).Plain worldId lobbyId := ⟨rfl, rfl, rfl, rfl, rfl, rfl⟩

def createIn (worldId : UInt32) (lobbyId : UInt64) : ManagerCall CreateRoomResponse :=
  RoomManager.reqCreateRoom oneWorld zeroComId { roomForTwo with worldId, lobbyId } (player 1)
    ClientSharedSignalingInfo.new 0

theorem created_room_found_iff_lobby :
    ∃ resp rooms, (createIn 0 1 RoomManager.new).1 = .ok resp ∧
      (createIn 0 1 RoomManager.new).2.matchingRooms zeroComId (plainSearch 0 1) [1] = .ok rooms ∧
      ∃ room ∈ rooms, room.roomId = resp.internal.roomId := by
  have hok : (createIn 0 1 RoomManager.new).1.isOk = true := by decide +kernel
  have hlist : (createIn 0 1 RoomManager.new).2.searchList zeroComId (plainSearch 0 1) = {1} := by
    decide +kernel
  rcases hrun : createIn 0 1 RoomManager.new with ⟨o, m'⟩
  rw [hrun] at hok hlist
  cases o with
  | err e => cases hok
  | panic e => cases hok
  | ok resp =>
    have hb : ∀ c, uses (handedOut []) c < 2 ^ 64 := fun _ => Nat.two_pow_pos 64
    have hids : ∀ i, i ∈ [(1 : UInt64)] ↔ i ∈ m'.searchList zeroComId (plainSearch 0 1) := by
      intro i
      rw [hlist, List.mem_singleton, Finset.mem_singleton]
    have hhidden : roomForTwo.flagAttr &&& roomFlagAttrHidden = 0 := by decide
    obtain ⟨rooms, hrooms, -, hfound⟩ := created_room_found_iff System.Run.start
      (fun c => Nat.le_of_lt (hb c)) (hb zeroComId) hrun hhidden (plainSearch_plain 0 1) hids
    exact ⟨resp, rooms, rfl, hrooms, hfound.mpr (Or.inl rfl)⟩

/-- **A room created in a world and a lobby is not found there.** It is accepted and stored; the
    search goes through the world, and the room stands under the lobby. -/
theorem created_room_lost :
    (createIn 1 1 RoomManager.new).1.isOk = true ∧
    ((createIn 1 1 RoomManager.new).2.rooms.get? (zeroComId, 1)).isSome = true ∧
    (createIn 1 1 RoomManager.new).2.searchList zeroComId (plainSearch 1 1) = ∅ ∧
    (createIn 1 1 RoomManager.new).2.matchingRooms zeroComId (plainSearch 1 1) [] = .ok [] :=
  ⟨by decide +kernel, by decide +kernel, by decide +kernel, rfl⟩

end Rpcn
