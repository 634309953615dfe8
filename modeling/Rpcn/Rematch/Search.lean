/-
  File:      Rpcn/Rematch/Search.lean
  Subject:   REMATCH PAIRS AND `req_search_room` (cmd_room.rs): does a search stay inside the game?

  A search has two ways to its response. If the client has an unexpired rematch pair, all rooms of
  the server are scanned for one in which the opponent waits alone, and that room is the response;
  else the search goes through the index of a world or a lobby (`RoomManager::search_room`). Rooms
  are stored under a com id and a number that counts per com id, and the response carries only the
  number.
-/
import Rpcn.Gui.Manager
import Rpcn.Room.Reachable
import Rpcn.Room.Search

namespace Rpcn.Rematch

open Lib Np2Structs

/-! ## 1. The pairs -/

/-- `rematch_pairs`: who is to play whom again, and since when. -/
abbrev RematchPairs := HashMap String (String × Nat)

namespace RematchPairs

def fresh (now t : Nat) : Bool := (now - t) / 1000000000 < 15

def expire (pairs : RematchPairs) (now : Nat) : RematchPairs := pairs.retain fun _ p => fresh now p.2

def lookup (pairs : RematchPairs) (now : Nat) (npid : String) : Option String :=
  ((pairs.expire now).get? npid).map (·.1)

def settle (pairs : RematchPairs) (npid opp : String) : RematchPairs :=
  (pairs.remove npid).remove opp

end RematchPairs

/-! ## 2. The request of one game (game_specific_matchmaking.rs) -/

def saturatingAdd (a b : UInt32) : UInt32 := if a + b < a then 0xFFFFFFFF else a + b

def saturatingSub (a b : UInt32) : UInt32 := if a < b then 0 else a - b

def npwr0297300 : ComId :=
  #v[0x4E, 0x50, 0x57, 0x52, 0x30, 0x32, 0x39, 0x37, 0x33, 0x5F, 0x30, 0x30]

abbrev rankLowerFilterIndex : Nat := 3
abbrev rankUpperFilterIndex : Nat := 4
abbrev firstDanMaxRank : UInt32 := 10

def withNum (num : UInt32) (f : IntSearchFilter) : IntSearchFilter :=
  { f with attr := f.attr.map fun a => { a with num } }

/-- The two numbers moved two ranks toward their midpoint, where the midpoint is above the first
    dan and this changes anything. -/
def adjustedRange (lower upper : UInt32) : Option (UInt32 × UInt32) :=
  if lower > upper then none
  else
    let rank := lower + (upper - lower) / 2
    if rank ≤ firstDanMaxRank then none
    else
      let adjusted := (min (saturatingAdd lower 2) rank, max (saturatingSub upper 2) rank)
      if adjusted = (lower, upper) then none else some adjusted

def buildNpwr02973AdjustedRequest (comId : ComId) (req : SearchRoomRequest) :
    Option SearchRoomRequest :=
  if comId ≠ npwr0297300 then none
  else do
    let lower := (← (← req.intFilter[rankLowerFilterIndex]?).attr).num
    let upper := (← (← req.intFilter[rankUpperFilterIndex]?).attr).num
    let adjusted ← adjustedRange lower upper
    return { req with
      intFilter := (req.intFilter.modify rankLowerFilterIndex (withNum adjusted.1)).modify
        rankUpperFilterIndex (withNum adjusted.2) }

def effectiveRequest (comId : ComId) (req : SearchRoomRequest) : SearchRoomRequest :=
  (buildNpwr02973AdjustedRequest comId req).getD req

/-! ## 3. The handler -/

def waitsAlone (npid : String) (room : Room) : Bool :=
  room.users.size = 1 && room.users.any fun _ u => u.npid = npid

/-- `get_rooms().values().find(..)`: the first room, of whatever game, in which the opponent waits
    alone. -/
def opponentRoom (m : RoomManager) (order : List (ComId × UInt64)) (opp : String) : Option Room :=
  (order.filterMap m.rooms.get?).find? (waitsAlone opp)

/-- `Client::req_search_room`, for the client `npid`. -/
def reqSearchRoom (m : RoomManager) (npid : String) (now : Nat) (comId : ComId)
    (req : SearchRoomRequest) (order : List (ComId × UInt64)) (ids : List UInt64) :
    Call ErrorType SearchPanic RematchPairs SearchRoomResponse := do
  Call.modify fun pairs => pairs.expire now
  let pairs ← Call.read
  match (pairs.get? npid).map (·.1) with
  | none => Call.ofOutcome (m.searchRoom comId (effectiveRequest comId req) ids)
  | some opp =>
    match opponentRoom m order opp with
    | some room =>
      let incAttrs ← Call.ofOutcome req.incAttrs
      let roomData ← Call.ofOutcome (room.toRoomDataExternal req.option incAttrs)
      Call.modify fun pairs => pairs.settle npid opp
      return ⟨1, 1, [roomData]⟩
    | none =>
      -- the greater of the two names waits for the other to open a room
      if npid > opp then return ⟨1, 0, []⟩
      else Call.ofOutcome (m.searchRoom comId (effectiveRequest comId req) ids)

/-! ## 4. The rooms of a response -/

variable {comId : ComId} {req : SearchRoomRequest}

theorem exists_intFilter_of_adjusted {adjusted : SearchRoomRequest}
    (h : buildNpwr02973AdjustedRequest comId req = some adjusted) :
    ∃ intFilter, adjusted = { req with intFilter } := by
  unfold buildNpwr02973AdjustedRequest at h
  split at h
  · cases h
  · simp only [Option.bind_eq_bind, Option.bind_eq_some_iff] at h
    obtain ⟨_, _, _, _, _, _, _, _, _, _, h⟩ := h
    exact ⟨_, (Option.some.inj h).symm⟩

theorem exists_intFilter_of_effectiveRequest (comId : ComId) (req : SearchRoomRequest) :
    ∃ intFilter, effectiveRequest comId req = { req with intFilter } := by
  unfold effectiveRequest
  cases h : buildNpwr02973AdjustedRequest comId req with
  | none => exact ⟨req.intFilter, rfl⟩
  | some adjusted => exact exists_intFilter_of_adjusted h

/-- What a response says of a room is what the room shows for the request. -/
def Shows (req : SearchRoomRequest) (room : Room) (rd : RoomDataExternal) : Prop :=
  ∃ incAttrs, req.incAttrs = .ok incAttrs ∧ room.toRoomDataExternal req.option incAttrs = .ok rd

variable {m : RoomManager} {ids : List UInt64} {resp : SearchRoomResponse}

theorem searchRoom_shows (h : m.searchRoom comId (effectiveRequest comId req) ids = .ok resp) :
    ∀ rd ∈ resp.rooms, ∃ roomId room, m.rooms.get? (comId, roomId) = some room ∧
      Shows req room rd := by
  intro rd hrd
  obtain ⟨intFilter, he⟩ := exists_intFilter_of_effectiveRequest comId req
  rw [he] at h
  obtain ⟨roomId, room, incAttrs, hget, hshows⟩ := RoomManager.searchRoom_stored h rd hrd
  exact ⟨roomId, room, hget, incAttrs, hshows⟩

theorem reqSearchRoom_from {npid : String} {now : Nat} {order : List (ComId × UInt64)}
    {pairs pairs' : RematchPairs}
    (h : reqSearchRoom m npid now comId req order ids pairs = (.ok resp, pairs')) :
    ∀ rd ∈ resp.rooms, ∃ key room, m.rooms.get? key = some room ∧ Shows req room rd ∧
      (key.1 = comId ∨ ∃ opp, pairs.lookup now npid = some opp ∧ waitsAlone opp room = true) := by
  unfold reqSearchRoom at h
  rw [Call.bind_ok (Call.modify_run _ _), Call.bind_ok (Call.read_run _)] at h
  cases hopp : ((pairs.expire now).get? npid).map (·.1) with
  | none =>
    rw [hopp] at h
    intro rd hrd
    obtain ⟨roomId, room, hget, hshows⟩ := searchRoom_shows (congrArg Prod.fst h) rd hrd
    exact ⟨(comId, roomId), room, hget, hshows, Or.inl rfl⟩
  | some opp =>
    rw [hopp] at h
    cases hroom : opponentRoom m order opp with
    | none =>
      simp only [hroom] at h
      split at h
      · cases h
        exact fun rd hrd => absurd hrd List.not_mem_nil
      · intro rd hrd
        obtain ⟨roomId, room, hget, hshows⟩ := searchRoom_shows (congrArg Prod.fst h) rd hrd
        exact ⟨(comId, roomId), room, hget, hshows, Or.inl rfl⟩
    | some room =>
      simp only [hroom] at h
      obtain ⟨incAttrs, _, hinc, h⟩ := Call.bind_eq_ok h
      obtain ⟨roomData, _, hdata, h⟩ := Call.bind_eq_ok h
      cases h
      intro rd hrd
      obtain rfl := List.mem_singleton.mp hrd
      obtain ⟨key, _, hget⟩ := List.mem_filterMap.mp (List.mem_of_find?_eq_some hroom)
      exact ⟨key, room, hget, ⟨incAttrs, congrArg Prod.fst hinc, congrArg Prod.fst hdata⟩,
        Or.inr ⟨opp, hopp, List.find?_some hroom⟩⟩

/-! ## 5. The room that a following join goes to -/

theorem reqJoinRoom_target (h : m.Inv) {req : JoinRoomRequest} {room : Room}
    (hr : m.rooms.get? (comId, req.roomId) = some room) (cinfo : ClientInfo)
    (sig : ClientSharedSignalingInfo) (now : UInt64) :
    ∃ room', room.SameRoom room' ∧ ∀ key,
      (RoomManager.reqJoinRoom comId req cinfo sig now m).2.rooms.get? key =
        if key = (comId, req.roomId) then some room' else m.rooms.get? key := by
  have hs := RoomManager.reqJoinRoom_step m comId req cinfo sig now
  generalize RoomManager.reqJoinRoom comId req cinfo sig now m = x at hs
  obtain ⟨o, m'⟩ := x
  have put : ∀ (r' : Room) (key : ComId × UInt64),
      (m.rooms.insert (comId, req.roomId) r').get? key =
        if key = (comId, req.roomId) then some r' else m.rooms.get? key :=
    fun r' key => HashMap.get?_insert m.rooms (comId, req.roomId) key r'
  cases hs with
  | absent e =>
    refine ⟨room, .refl room, fun key => ?_⟩
    split
    · rename_i e
      rw [e]
      exact hr
    · rfl
  | failed r r' e hr' hnew ha =>
    obtain rfl := Option.some.inj (hr.symm.trans hr')
    exact ⟨r', ha.sameRoom (h.wf hr), put r'⟩
  | stuck r r' p hr' hnew ha =>
    obtain rfl := Option.some.inj (hr.symm.trans hr')
    exact ⟨r', ha.sameRoom (h.wf hr), put r'⟩
  | joined r r' memberId previous o ho hr' hnew ha =>
    obtain rfl := Option.some.inj (hr.symm.trans hr')
    exact ⟨r', ha.sameRoom (h.wf hr), put r'⟩

/-! ## 6. Searches inside the game -/

/-- **The opponent waits alone in no room of another game.** -/
def InGame (m : RoomManager) (pairs : RematchPairs) (now : Nat) (npid : String) (comId : ComId) :
    Prop :=
  ∀ opp, pairs.lookup now npid = some opp → ∀ key room, m.rooms.get? key = some room →
    waitsAlone opp room = true → key.1 = comId

def anyRoom : SearchRoomRequest where
  option := 1
  worldId := 1
  lobbyId := 0
  rangeFilterStartIndex := 1
  rangeFilterMax := 20
  flagFilter := 0
  flagAttr := 0
  intFilter := []
  binFilter := []
  attrId := []

def opensRoom (comId : ComId) (cinfo : ClientInfo) : RoomOp :=
  .createRoom comId roomForTwo cinfo 0 ClientSharedSignalingInfo.new 0

def roomsOf (opened : List (ComId × ClientInfo)) : RoomManager :=
  opened.foldl (fun m o => ((opensRoom o.1 o.2).call m).2) .new

theorem run_roomsOf (opened : List (ComId × ClientInfo)) :
    ∃ es, roomSystem.Run es (roomsOf opened) := by
  have run_from : ∀ (l : List (ComId × ClientInfo)) {es m}, roomSystem.Run es m →
      ∃ es', roomSystem.Run es' (l.foldl (fun m o => ((opensRoom o.1 o.2).call m).2) m) := by
    intro l
    induction l with
    | nil => exact fun h => ⟨_, h⟩
    | cons o l ih => exact fun h => ih (h.step (opensRoom o.1 o.2) trivial)
  exact run_from opened .start

def sameGame : RoomManager := roomsOf [(zeroComId, ⟨2, "b", "", ""⟩)]

def otherComId : ComId := Vector.replicate 12 1

def twoGames : RoomManager :=
  roomsOf [(zeroComId, ⟨3, "c", "", ""⟩), (otherComId, ⟨2, "b", "", ""⟩)]

def pairedWithB : RematchPairs := (∅ : RematchPairs).insert "a" ("b", 0)

def shownRoom (owner : String) : RoomDataExternal where
  serverId := some ⟨0⟩
  worldId := 1
  publicSlotNum := some ⟨2⟩
  privateSlotNum := some ⟨0⟩
  lobbyId := 0
  roomId := 1
  openPublicSlotNum := some ⟨2⟩
  maxSlot := some ⟨2⟩
  openPrivateSlotNum := some ⟨0⟩
  curMemberNum := some ⟨1⟩
  passwordSlotMask := 0
  owner := some ⟨owner, "", ""⟩
  roomGroup := []
  flagAttr := 0
  roomSearchableIntAttrExternal := []
  roomSearchableBinAttrExternal := []
  roomBinAttrExternal := []

end Rpcn.Rematch
