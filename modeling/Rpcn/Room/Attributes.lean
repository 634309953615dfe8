/-
  File:      Rpcn/Room/Attributes.lean
  Subject:   THE EXTERNAL ATTRIBUTES OF A ROOM READ BACK AS LAST WRITTEN.

  `create_room` and `set_roomdata_external` write three lists of attributes: integers to an array of
  eight, byte strings to an array of two, and one searchable byte string. An entry with another id
  is skipped. `to_RoomDataExternal` and the integer filters of a search read them.
-/
import Rpcn.Lib.LastWrite
import Rpcn.Room.Notifications
import Rpcn.Room.SearchSafety

namespace Rpcn

open Lib Np2Structs RoomManager Call Room Uint16
open Std (ExtTreeMap)

/-! ## 1. What was written -/

structure AttrLists where
  ints : List IntAttr
  searchBins : List BinAttr
  bins : List BinAttr

def Np2Structs.CreateJoinRoomRequest.attrLists (req : CreateJoinRoomRequest) : AttrLists :=
  ⟨req.roomSearchableIntAttrExternal, req.roomSearchableBinAttrExternal, req.roomBinAttrExternal⟩

def Np2Structs.SetRoomDataExternalRequest.attrLists (req : SetRoomDataExternalRequest) :
    AttrLists :=
  ⟨req.roomSearchableIntAttrExternal, req.roomSearchableBinAttrExternal, req.roomBinAttrExternal⟩

def hasId (id : UInt16) (x : Option Uint16) : Bool := (Uint16.getVerifiedOpt x).toOption == some id

variable {x : Option Uint16}

theorem hasId_of_ok {v : UInt16} (h : getVerifiedOpt x = .ok v) (id : UInt16) :
    hasId id x = decide (v = id) := by
  rw [hasId, h]
  rfl

def lastInt (log : List AttrLists) (id : UInt16) : UInt32 :=
  ((lastOf (fun a : IntAttr => hasId id a.id) (log.map (·.ints))).map (·.num)).getD 0

def lastSearchBin (log : List AttrLists) : List UInt8 :=
  ((lastOf (fun a : BinAttr => hasId roomSearchableBinAttrExternal1Id a.id)
    (log.map (·.searchBins))).map (·.data)).getD []

def lastBin (log : List AttrLists) (id : UInt16) : List UInt8 :=
  ((lastOf (fun a : BinAttr => hasId id a.id) (log.map (·.bins))).map (·.data)).getD []

theorem lastInt_append (log : List AttrLists) (l : AttrLists) (id : UInt16) :
    lastInt (log ++ [l]) id =
      ((lastWhere (fun a : IntAttr => hasId id a.id) l.ints).map (·.num)).getD
        (lastInt log id) := by
  rw [lastInt, List.map_append, List.map_singleton, getD_lastOf_append]
  rfl

theorem lastSearchBin_append (log : List AttrLists) (l : AttrLists) :
    lastSearchBin (log ++ [l]) =
      ((lastWhere (fun a : BinAttr => hasId roomSearchableBinAttrExternal1Id a.id)
        l.searchBins).map (·.data)).getD (lastSearchBin log) := by
  rw [lastSearchBin, List.map_append, List.map_singleton, getD_lastOf_append]
  rfl

theorem lastBin_append (log : List AttrLists) (l : AttrLists) (id : UInt16) :
    lastBin (log ++ [l]) id =
      ((lastWhere (fun a : BinAttr => hasId id a.id) l.bins).map (·.data)).getD
        (lastBin log id) := by
  rw [lastBin, List.map_append, List.map_singleton, getD_lastOf_append]
  rfl

/-! ## 2. One list of entries -/

variable {N : Nat}

theorem RoomBinAttr.toProtobuf_of_ok {pb : BinAttr} {a : RoomBinAttr N}
    (h : RoomBinAttr.fromProtobuf pb = .ok a) :
    getVerifiedOpt pb.id = .ok a.id ∧
      a.toProtobuf = ⟨newFromValue a.id, pb.data⟩ := by
  unfold RoomBinAttr.fromProtobuf at h
  obtain ⟨id, hid, h⟩ := except_bind_ok h
  split at h
  · cases h
  · rename_i hlen
    cases h
    have htake := take_ofFn_getD (N := N) pb.data
    rw [Nat.min_eq_left (Nat.le_of_not_lt hlen), List.take_of_length_le (Nat.le_of_not_lt hlen)]
      at htake
    exact ⟨hid, congrArg (BinAttr.mk _) htake⟩

variable {α : Type} {n : Nat} {lo hi : UInt16}

theorem attrAt_storeAttr (id : UInt16) (a : α) (attrs : Vector α n) {id' : UInt16}
    (hlo : lo ≤ id') (hhi : id' ≤ hi) (hn : hi.toNat - lo.toNat < n) :
    attrAt lo hi (storeAttr lo hi id a attrs) id' =
      if id = id' then some a else attrAt lo hi attrs id' := by
  have hin : ¬ (id' < lo ∨ hi < id') := by
    rw [UInt16.lt_iff_toNat_lt, UInt16.lt_iff_toNat_lt]
    rw [UInt16.le_iff_toNat_le] at hlo hhi
    omega
  rw [attrAt, if_neg hin, attrAt, if_neg hin, storeAttr]
  split
  · rename_i hout
    rw [if_neg]
    intro e
    exact hin (e ▸ hout)
  · rename_i hid
    rw [UInt16.lt_iff_toNat_lt, UInt16.lt_iff_toNat_lt] at hid
    rw [Vector.getElem?_setIfInBounds, UInt16.toNat_sub_of_le _ _ hlo,
      UInt16.toNat_sub_of_le _ _ (UInt16.le_iff_toNat_le.mpr (by omega))]
    rw [UInt16.le_iff_toNat_le] at hlo hhi
    by_cases e : id = id'
    · rw [if_pos e, if_pos (by rw [e]), if_pos (by omega)]
    · have hne : ¬ id.toNat - lo.toNat = id'.toNat - lo.toNat := by
        intro e'
        exact e (UInt16.toNat_inj.mp (by omega))
      rw [if_neg e, if_neg hne]

section

variable {σ : Type} {id : UInt16}

theorem int_written (read : σ → Option RoomIntAttr) (write : σ → RoomIntAttr → σ)
    (hwrite : ∀ s a, read (write s a) = if a.id = id then some a else read s)
    {l : List IntAttr} {s s' : σ} {v : UInt32} (hs : read s = some ⟨id, v⟩)
    (h : l.foldlM (fun s p => do let a ← RoomIntAttr.fromProtobuf p; return write s a) s =
      .ok s') :
    read s' = some ⟨id, ((lastWhere (fun a : IntAttr => hasId id a.id) l).map (·.num)).getD v⟩ := by
  have hread := read_foldlM read (fun a : IntAttr => hasId id a.id)
    (fun a => some ⟨id, a.num⟩) ?_ h
  · rw [hread, hs]
    cases lastWhere (fun a : IntAttr => hasId id a.id) l <;> rfl
  · intro s p a ha
    obtain ⟨v, hv, ha⟩ := except_bind_ok ha
    cases ha
    rw [hwrite, hasId_of_ok hv]
    by_cases e : v = id
    · simp [e]
    · simp [e]

theorem bin_written (read : σ → Option BinAttr) (write : σ → RoomBinAttr N → σ)
    (hwrite : ∀ s a, read (write s a) = if a.id = id then some a.toProtobuf else read s)
    {l : List BinAttr} {s s' : σ} {v : List UInt8}
    (hs : read s = some ⟨newFromValue id, v⟩)
    (h : l.foldlM (fun s p => do let a ← RoomBinAttr.fromProtobuf p; return write s a) s =
      .ok s') :
    read s' = some ⟨newFromValue id,
      ((lastWhere (fun a : BinAttr => hasId id a.id) l).map (·.data)).getD v⟩ := by
  have hread := read_foldlM read (fun a : BinAttr => hasId id a.id)
    (fun a => some ⟨newFromValue id, a.data⟩) ?_ h
  · rw [hread, hs]
    cases lastWhere (fun a : BinAttr => hasId id a.id) l <;> rfl
  · intro s p a ha
    obtain ⟨hv, hpb⟩ := RoomBinAttr.toProtobuf_of_ok ha
    rw [hwrite, hasId_of_ok hv, hpb]
    by_cases e : a.id = id
    · simp [e]
    · simp [e]

end

/-! ## 3. One request -/

variable {log : List AttrLists} {r r' base : Room} {userId : UserId}
  {req : SetRoomDataExternalRequest} {now : UInt64} {e : ErrorType} {p : BinAttr}

namespace Room

structure Holds (r : Room) (log : List AttrLists) : Prop where
  ints : ∀ id, roomSearchableIntAttrExternal1Id ≤ id → id ≤ roomSearchableIntAttrExternal8Id →
    r.searchInt id = some ⟨id, lastInt log id⟩
  searchBin : r.searchBinAttr.toProtobuf =
    ⟨Uint16.newFromValue roomSearchableBinAttrExternal1Id, lastSearchBin log⟩
  bins : ∀ id, roomBinAttrExternal1Id ≤ id → id ≤ roomBinAttrExternal2Id →
    (attrAt roomBinAttrExternal1Id roomBinAttrExternal2Id r.binAttrExternal id).map
      (·.toProtobuf) = some ⟨Uint16.newFromValue id, lastBin log id⟩

def SameExternal (r r' : Room) : Prop :=
  r'.searchIntAttr = r.searchIntAttr ∧ r'.searchBinAttr = r.searchBinAttr ∧
    r'.binAttrExternal = r.binAttrExternal

theorem Holds.same (h : r.Holds log) (hs : r.SameExternal r') : r'.Holds log := by
  obtain ⟨hint, hsearch, hbin⟩ := hs
  refine ⟨?_, ?_, ?_⟩
  · intro id hlo hhi
    rw [searchInt, hint]
    exact h.ints id hlo hhi
  · rw [hsearch]
    exact h.searchBin
  · intro id hlo hhi
    rw [hbin]
    exact h.bins id hlo hhi

/-- The bodies of the three loops of `set_roomdata_external`. -/
def storeBin (r : Room) (a : RoomBinAttr 256) : Room :=
  { r with
    binAttrExternal :=
      storeAttr roomBinAttrExternal1Id roomBinAttrExternal2Id a.id a r.binAttrExternal }

def storeSearchBin (r : Room) (a : RoomBinAttr 64) : Room :=
  if a.id ≠ roomSearchableBinAttrExternal1Id then r else { r with searchBinAttr := a }

def storeInt (r : Room) (a : RoomIntAttr) : Room :=
  { r with
    searchIntAttr := storeAttr roomSearchableIntAttrExternal1Id roomSearchableIntAttrExternal8Id
      a.id a r.searchIntAttr }

theorem setExternal_of_owner (h : r.IsOwner userId) (req : SetRoomDataExternalRequest) :
    setExternal req userId r = (do
      storeAll RoomBinAttr.fromProtobuf storeBin req.roomBinAttrExternal
      storeAll RoomBinAttr.fromProtobuf storeSearchBin req.roomSearchableBinAttrExternal
      storeAll RoomIntAttr.fromProtobuf storeInt req.roomSearchableIntAttrExternal :
        RoomCall Unit) r := by
  rw [setExternal, bind_ok (read_run r), getMemberId_some h,
    bind_ok (ofExcept_ok r.owner r), if_neg (not_not.mpr rfl)]
  rfl

theorem setExternal_eq_ok :
    setExternal req userId r = (.ok (), r') ↔ r.IsOwner userId ∧ ∃ r₁ r₂ : Room,
      req.roomBinAttrExternal.foldlM
        (fun r p => do let a ← RoomBinAttr.fromProtobuf p; return r.storeBin a) r = .ok r₁ ∧
      req.roomSearchableBinAttrExternal.foldlM
        (fun r p => do let a ← RoomBinAttr.fromProtobuf p; return r.storeSearchBin a) r₁ = .ok r₂ ∧
      req.roomSearchableIntAttrExternal.foldlM
        (fun r p => do let a ← RoomIntAttr.fromProtobuf p; return r.storeInt a) r₂ = .ok r' := by
  by_cases ho : r.IsOwner userId
  swap
  · obtain ⟨e, he⟩ := setExternal_of_not_owner ho req
    rw [he]
    constructor
    · intro h
      cases h
    · intro h
      exact absurd h.1 ho
  rw [setExternal_of_owner ho]
  constructor
  · intro h
    obtain ⟨_, r₁, h₁, h⟩ := bind_eq_ok h
    obtain ⟨_, r₂, h₂, h₃⟩ := bind_eq_ok h
    exact ⟨ho, r₁, r₂, storeAll_eq_ok.mp h₁, storeAll_eq_ok.mp h₂, storeAll_eq_ok.mp h₃⟩
  · intro h
    obtain ⟨-, r₁, r₂, h₁, h₂, h₃⟩ := h
    rw [bind_ok (storeAll_eq_ok.mpr h₁), bind_ok (storeAll_eq_ok.mpr h₂)]
    exact storeAll_eq_ok.mpr h₃

theorem storeSearchBin_kept (r : Room) (a : RoomBinAttr 64) :
    (r.storeSearchBin a).searchIntAttr = r.searchIntAttr ∧
      (r.storeSearchBin a).binAttrExternal = r.binAttrExternal := by
  unfold storeSearchBin
  split <;> exact ⟨rfl, rfl⟩

theorem Holds.setExternal (h : r.Holds log) (hset : setExternal req userId r = (.ok (), r')) :
    r'.Holds (log ++ [req.attrLists]) := by
  obtain ⟨-, r₁, r₂, h₁, h₂, h₃⟩ := setExternal_eq_ok.mp hset
  refine ⟨?_, ?_, ?_⟩
  · intro id hlo hhi
    have hkeep : r₂.searchIntAttr = r.searchIntAttr :=
      (read_foldlM_of_never searchIntAttr _ (fun s a => (storeSearchBin_kept s a).1) h₂).trans
        (read_foldlM_of_never searchIntAttr storeBin (fun _ _ => rfl) h₁)
    have hold : r₂.searchInt id = some ⟨id, lastInt log id⟩ := by
      rw [searchInt, hkeep]
      exact h.ints id hlo hhi
    rw [lastInt_append]
    refine int_written (searchInt · id) storeInt (fun s a => ?_) hold h₃
    exact attrAt_storeAttr a.id a s.searchIntAttr hlo hhi (by decide)
  · have hkeep : r₁.searchBinAttr = r.searchBinAttr :=
      read_foldlM_of_never searchBinAttr storeBin (fun _ _ => rfl) h₁
    have hkeep' : r'.searchBinAttr = r₂.searchBinAttr :=
      read_foldlM_of_never searchBinAttr storeInt (fun _ _ => rfl) h₃
    rw [lastSearchBin_append, hkeep']
    refine Option.some.inj (bin_written (fun r : Room => some r.searchBinAttr.toProtobuf)
      storeSearchBin (fun s a => ?_) (congrArg some (hkeep ▸ h.searchBin)) h₂)
    unfold storeSearchBin
    by_cases e : a.id = roomSearchableBinAttrExternal1Id
    · rw [if_neg (not_not.mpr e), if_pos e]
    · rw [if_pos e, if_neg e]
  · intro id hlo hhi
    have hkeep : r'.binAttrExternal = r₁.binAttrExternal :=
      (read_foldlM_of_never binAttrExternal storeInt (fun _ _ => rfl) h₃).trans
        (read_foldlM_of_never binAttrExternal _ (fun s a => (storeSearchBin_kept s a).2) h₂)
    rw [lastBin_append, hkeep]
    refine bin_written (fun r : Room => (attrAt roomBinAttrExternal1Id roomBinAttrExternal2Id
      r.binAttrExternal id).map (·.toProtobuf)) storeBin (fun s a => ?_) (h.bins id hlo hhi) h₁
    show Option.map _ (attrAt _ _ (storeAttr _ _ a.id a s.binAttrExternal) id) = _
    rw [attrAt_storeAttr a.id a s.binAttrExternal hlo hhi (by decide)]
    split <;> rfl

variable {id : UInt16}

theorem attrAt_newInts (hlo : roomSearchableIntAttrExternal1Id ≤ id)
    (hhi : id ≤ roomSearchableIntAttrExternal8Id) :
    attrAt roomSearchableIntAttrExternal1Id roomSearchableIntAttrExternal8Id
      (Vector.ofFn fun i : Fin 8 =>
        RoomIntAttr.withId (roomSearchableIntAttrExternal1Id + i.val.toUInt16)) id =
      some ⟨id, 0⟩ := by
  have hin : ¬ (id < roomSearchableIntAttrExternal1Id ∨ roomSearchableIntAttrExternal8Id < id) :=
    not_or.mpr ⟨UInt16.not_lt.mpr hlo, UInt16.not_lt.mpr hhi⟩
  have hk : (id - roomSearchableIntAttrExternal1Id).toNat < 8 := by
    rw [UInt16.toNat_sub_of_le _ _ hlo]
    have hhi : id.toNat ≤ 0x53 := UInt16.le_iff_toNat_le.mp hhi
    have hlo : 0x4C ≤ id.toNat := UInt16.le_iff_toNat_le.mp hlo
    show id.toNat - 0x4C < 8
    omega
  rw [attrAt, if_neg hin, Vector.getElem?_ofFn, dif_pos hk, RoomIntAttr.withId]
  have hid : roomSearchableIntAttrExternal1Id +
      (id - roomSearchableIntAttrExternal1Id).toNat.toUInt16 = id := by
    rw [show (id - roomSearchableIntAttrExternal1Id).toNat.toUInt16 = _ from
      UInt16.ofNat_toNat, add_sub_cancel]
  exact congrArg (fun i => some (RoomIntAttr.mk i 0)) hid

theorem attrAt_newBins (hlo : roomBinAttrExternal1Id ≤ id) (hhi : id ≤ roomBinAttrExternal2Id) :
    (attrAt roomBinAttrExternal1Id roomBinAttrExternal2Id
      #v[RoomBinAttr.withId (N := 256) roomBinAttrExternal1Id,
        RoomBinAttr.withId roomBinAttrExternal2Id] id).map (·.toProtobuf) =
      some ⟨newFromValue id, []⟩ := by
  have hid : id = roomBinAttrExternal1Id ∨ id = roomBinAttrExternal2Id := by
    have hhi : id.toNat ≤ 0x56 := UInt16.le_iff_toNat_le.mp hhi
    have hlo : 0x55 ≤ id.toNat := UInt16.le_iff_toNat_le.mp hlo
    rw [← UInt16.toNat_inj, ← UInt16.toNat_inj]
    show id.toNat = 0x55 ∨ id.toNat = 0x56
    omega
  rcases hid with rfl | rfl <;> rfl

theorem holds_fromProtobuf {req : CreateJoinRoomRequest}
    (h : fromProtobuf req now = .ok base) : base.Holds [req.attrLists] := by
  change base.Holds ([] ++ [req.attrLists])
  unfold fromProtobuf at h
  obtain ⟨_, -, h⟩ := except_bind_ok h
  obtain ⟨bins, hbins, h⟩ := except_bind_ok h
  obtain ⟨searchBin, hsearch, h⟩ := except_bind_ok h
  obtain ⟨ints, hints, h⟩ := except_bind_ok h
  obtain ⟨_, -, h⟩ := except_bind_ok h
  cases h
  refine ⟨?_, ?_, ?_⟩
  · intro id hlo hhi
    rw [lastInt_append]
    refine int_written (attrAt roomSearchableIntAttrExternal1Id roomSearchableIntAttrExternal8Id
      · id) _ (fun s a => ?_) (attrAt_newInts hlo hhi) hints
    exact attrAt_storeAttr a.id a s hlo hhi (by decide)
  · rw [lastSearchBin_append]
    have hnew : some (RoomBinAttr.withId (N := 64) roomSearchableBinAttrExternal1Id).toProtobuf =
        some ⟨newFromValue roomSearchableBinAttrExternal1Id, []⟩ := rfl
    refine Option.some.inj (bin_written (fun a : RoomBinAttr 64 => some a.toProtobuf) _
      (fun s a => ?_) hnew hsearch)
    by_cases e : a.id = roomSearchableBinAttrExternal1Id
    · rw [if_neg (not_not.mpr e), if_pos e]
    · rw [if_pos e, if_neg e]
  · intro id hlo hhi
    rw [lastBin_append]
    refine bin_written (fun attrs : Vector (RoomBinAttr 256) 2 => (attrAt roomBinAttrExternal1Id
      roomBinAttrExternal2Id attrs id).map (·.toProtobuf)) _ (fun s a => ?_)
      (attrAt_newBins hlo hhi) hbins
    rw [attrAt_storeAttr a.id a s hlo hhi (by decide)]
    split <;> rfl

theorem getVerifiedOpt_error (h : getVerifiedOpt x = .error e) : e = .malformed := by
  unfold getVerifiedOpt getVerified at h
  split at h
  · cases h
    rfl
  · split at h
    · cases h
      rfl
    · cases h

theorem getVerifiedOpt_bind_error {f : UInt16 → Except ErrorType α}
    (hf : ∀ id e, f id = .error e → e = .malformed)
    (h : (getVerifiedOpt x >>= f) = .error e) : e = .malformed := by
  cases hid : getVerifiedOpt x with
  | error e' =>
    rw [hid] at h
    cases h
    exact getVerifiedOpt_error hid
  | ok id =>
    rw [hid] at h
    exact hf id e h

theorem fromProtobuf_error
    (h : (RoomBinAttr.fromProtobuf p : Except _ (RoomBinAttr N)) = .error e) : e = .malformed := by
  refine getVerifiedOpt_bind_error (fun id e' he => ?_) h
  split at he
  · cases he
    rfl
  · cases he

theorem intFromProtobuf_error {p : IntAttr} (h : RoomIntAttr.fromProtobuf p = .error e) :
    e = .malformed :=
  getVerifiedOpt_bind_error (fun _ _ he => by cases he) h

theorem setExternal_ends (r : Room) (req : SetRoomDataExternalRequest) (userId : UserId) :
    (∃ r', setExternal req userId r = (.ok (), r')) ∨
    (setExternal req userId r).1 = .err .malformed ∨
    ∃ e, setExternal req userId r = (.err e, r) := by
  by_cases ho : r.IsOwner userId
  swap
  · exact Or.inr (Or.inr (setExternal_of_not_owner ho req))
  rw [setExternal_of_owner ho]
  rcases storeAll_cases RoomBinAttr.fromProtobuf storeBin req.roomBinAttrExternal r with
    ⟨r₁, h₁⟩ | ⟨_, _, _, he, h₁⟩
  swap
  · rw [bind_err h₁, fromProtobuf_error he]
    exact Or.inr (Or.inl rfl)
  rw [bind_ok h₁]
  rcases storeAll_cases RoomBinAttr.fromProtobuf storeSearchBin
    req.roomSearchableBinAttrExternal r₁ with ⟨r₂, h₂⟩ | ⟨_, _, _, he, h₂⟩
  swap
  · rw [bind_err h₂, fromProtobuf_error he]
    exact Or.inr (Or.inl rfl)
  rw [bind_ok h₂]
  rcases storeAll_cases RoomIntAttr.fromProtobuf storeInt
    req.roomSearchableIntAttrExternal r₂ with ⟨r₃, h₃⟩ | ⟨_, _, _, he, h₃⟩
  · exact Or.inl ⟨r₃, h₃⟩
  · rw [h₃, intFromProtobuf_error he]
    exact Or.inr (Or.inl rfl)

end Room

/-! ## 4. Runs -/

/-- **The accepted requests of the room with a key**, since it was created. -/
def noteWrites (key : ComId × UInt64) (_ : RoomManager) (op : RoomOp)
    (res : RoomOutcome × RoomManager) (log : List AttrLists) : List AttrLists :=
  match op, res.1 with
  | .createRoom comId req _ _ _ _, .ok (.created resp) =>
    if (comId, resp.internal.roomId) = key then [req.attrLists] else log
  | .setRoomdataExternal comId req _, .ok _ =>
    if (comId, req.roomId) = key then log ++ [req.attrLists] else log
  | _, _ => log

/-- No `set_roomdata_external` of the room is malformed. -/
def Unspoiled (key : ComId × UInt64) (s : RoomManager × List AttrLists) : RoomOp → Prop
  | .setRoomdataExternal comId req userId => (comId, req.roomId) = key →
      ((RoomOp.setRoomdataExternal comId req userId).call s.1).1 ≠ .err .malformed
  | _ => True

abbrev attrSystem (key : ComId × UInt64) :
    System (RoomManager × List AttrLists) RoomOp RoomOutcome :=
  roomSystem.observed [] (noteWrites key)

namespace Room

theorem sameExternal_letIn (h : r.Wf) (req : JoinRoomRequest) (cinfo : ClientInfo)
    (sig : ClientSharedSignalingInfo) (now : UInt64) :
    r.SameExternal (letIn req cinfo sig now r).2 := by
  rcases letIn_cases h req cinfo sig now with ⟨_, _, _, e, -⟩ | ⟨r₁, _, _, hs, -, -, -, e⟩
  · rw [e]
    exact ⟨rfl, rfl, rfl⟩
  · obtain ⟨_, _, _, rfl, -⟩ := hs
    rw [e]
    exact ⟨rfl, rfl, rfl⟩

theorem sameExternal_released {mid : UInt16} {member : RoomUser} {gone : Bool}
    (h : r.ReleaseStep mid member gone r') : r.SameExternal r' := by
  cases h with
  | stays ho => exact ⟨rfl, rfl, rfl⟩
  | handed s rest ho hs hfirst => exact ⟨rfl, rfl, rfl⟩
  | last rest ho he => exact ⟨rfl, rfl, rfl⟩

end Room

variable {key : ComId × UInt64} {m : RoomManager} {op : RoomOp} {res : RoomOutcome × RoomManager}

theorem noteWrites_of_not_ok (h : res.1.isOk = false) (log : List AttrLists) :
    noteWrites key m op res log = log := by
  obtain ⟨o, m'⟩ := res
  cases o with
  | ok r => cases h
  | err e => cases op <;> rfl
  | panic p => cases op <;> rfl

variable {comId : ComId}

theorem noteWrites_elsewhere (h : (comId, req.roomId) ≠ key) :
    noteWrites key m (.setRoomdataExternal comId req userId) res log = log := by
  obtain ⟨o, m'⟩ := res
  cases o with
  | ok r => exact if_neg h
  | err e => rfl
  | panic p => rfl

theorem RoomManager.setOn_run {roomId : UInt64} {room : Room}
    (hr : m.rooms.get? (comId, roomId) = some room) (c : RoomCall α) :
    setOn comId roomId c m = ((c room).1, m.putRoom (comId, roomId) (c room).2) := by
  rw [setOn, read_bind_run, hr]
  rfl

variable {s : RoomManager × List AttrLists}

theorem holds_create {req : CreateJoinRoomRequest} {cinfo : ClientInfo} {serverId : UInt16}
    {sig : ClientSharedSignalingInfo} (h : ∀ r, s.1.rooms.get? key = some r → r.Holds s.2)
    (hr' : ((RoomOp.createRoom comId req cinfo serverId sig now).call s.1).2.rooms.get? key =
      some r') :
    r'.Holds (noteWrites key s.1 (.createRoom comId req cinfo serverId sig now)
      ((RoomOp.createRoom comId req cinfo serverId sig now).call s.1) s.2) := by
  rw [RoomOp.call, mapOk_state] at hr'
  rcases createRoom_rooms s.1 comId req cinfo serverId sig now with
    ⟨⟨e, he⟩, hrooms⟩ | ⟨resp, base, u, room, memberId, groupId, hok, hid, hb, -, hg, hrooms⟩
  · rw [hrooms] at hr'
    rw [noteWrites_of_not_ok (by rw [RoomOp.call, mapOk_isOk, he]; rfl)]
    exact h r' hr'
  · have hcall : ((RoomOp.createRoom comId req cinfo serverId sig now).call s.1).1 =
        .ok (.created resp) := by
      rw [RoomOp.call, mapOk]
      rcases hrun : createRoom comId req cinfo serverId sig now s.1 with ⟨o, m'⟩
      rw [hrun] at hok
      cases hok
      rfl
    simp only [noteWrites, hcall, hid]
    rw [hrooms, HashMap.get?_insert] at hr'
    by_cases hkey : (comId, s.1.cnt comId + 1) = key
    · rw [if_pos hkey]
      rw [if_pos hkey.symm] at hr'
      cases hr'
      refine (holds_fromProtobuf hb).same ?_
      rw [enterFirstGroup_groupsOnly hg]
      exact ⟨rfl, rfl, rfl⟩
    · rw [if_neg hkey]
      rw [if_neg (Ne.symm hkey)] at hr'
      exact h r' hr'

theorem holds_setExternal (hG : Unspoiled key s (.setRoomdataExternal comId req userId))
    (h : ∀ r, s.1.rooms.get? key = some r → r.Holds s.2)
    (hr' : ((RoomOp.setRoomdataExternal comId req userId).call s.1).2.rooms.get? key = some r') :
    r'.Holds (noteWrites key s.1 (.setRoomdataExternal comId req userId)
      ((RoomOp.setRoomdataExternal comId req userId).call s.1) s.2) := by
  have hcall : (RoomOp.setRoomdataExternal comId req userId).call s.1 =
    mapOk (fun _ => .externalSet) (setRoomdataExternal comId req userId) s.1 := rfl
  cases hr : s.1.rooms.get? (comId, req.roomId) with
  | none =>
    have hrun : setRoomdataExternal comId req userId s.1 =
        (.err .roomMissing, s.1) := by
      rw [setRoomdataExternal, setOn, read_bind_run, hr]
      rfl
    rw [hcall, mapOk_state, hrun] at hr'
    rw [noteWrites_of_not_ok (by rw [hcall, mapOk_isOk, hrun]; rfl)]
    exact h r' hr'
  | some room =>
    have hrun : setRoomdataExternal comId req userId s.1 = _ :=
      setOn_run hr (setExternal req userId)
    rw [hcall, mapOk_state, hrun] at hr'
    change (s.1.rooms.insert _ _).get? key = _ at hr'
    rw [HashMap.get?_insert] at hr'
    by_cases hkey : (comId, req.roomId) = key
    swap
    · rw [if_neg (Ne.symm hkey)] at hr'
      rw [noteWrites_elsewhere hkey]
      exact h r' hr'
    rw [if_pos hkey.symm] at hr'
    cases hr'
    have hroom := h room (hkey ▸ hr)
    have hout : ((RoomOp.setRoomdataExternal comId req userId).call s.1).1 =
        (mapOk (fun _ => RoomReply.externalSet) (setExternal req userId) room).1 := by
      rw [hcall, mapOk, hrun, mapOk]
      rcases setExternal req userId room with ⟨o, r'⟩
      cases o <;> rfl
    rcases room.setExternal_ends req userId with ⟨r', hx⟩ | hx | ⟨e, hx⟩
    · rw [mapOk, hx] at hout
      simp only [noteWrites, hout, if_pos hkey, hx]
      exact hroom.setExternal hx
    · exact absurd (hout.trans (mapOk_err hx)) (hG hkey)
    · rw [noteWrites_of_not_ok (by rw [hout, mapOk_isOk, hx]; rfl), hx]
      exact hroom

theorem holds_step (hI : s.1.Inv) (hG : Unspoiled key s op)
    (h : ∀ r, s.1.rooms.get? key = some r → r.Holds s.2)
    (hr' : (op.call s.1).2.rooms.get? key = some r') :
    r'.Holds (noteWrites key s.1 op (op.call s.1) s.2) := by
  cases op with
  | createRoom comId req cinfo serverId sig now => exact holds_create h hr'
  | setRoomdataExternal comId req userId => exact holds_setExternal hG h hr'
  | joinRoom comId req cinfo sig now =>
    cases call_roomStep hI _ hr' with
    | same _ _ _ hr => exact h r' hr
    | admitted _ _ _ _ _ room hr hnew => exact (h room hr).same (sameExternal_letIn (hI.wf hr) ..)
  | leaveRoom comId roomId userId random =>
    cases call_roomStep hI _ hr' with
    | same _ _ _ hr => exact h r' hr
    | released _ _ _ _ room _ mid member hr _ _ hs =>
      exact (h room hr).same (sameExternal_released hs)
  | setRoomdataInternal comId req userId now =>
    cases call_roomStep hI _ hr' with
    | same _ _ _ hr => exact h r' hr
    | internal _ _ _ _ room hr =>
      obtain ⟨_, _, _, _, _, e, -, -⟩ := room.setInternal_ownerOnly req userId now
      exact (h room hr).same (by rw [e]; exact ⟨rfl, rfl, rfl⟩)
  | setRoommemberdataInternal comId req userId now =>
    cases call_roomStep hI _ hr' with
    | same _ _ _ hr => exact h r' hr
    | member _ _ _ _ room hr =>
      refine (h room hr).same ?_
      rcases room.setMember_memberDataOnly with e | ⟨-, _, _, _, _, -, -, e⟩
      · rw [e]
        exact ⟨rfl, rfl, rfl⟩
      · rw [e]
        exact ⟨rfl, rfl, rfl⟩

theorem holds_of_run {es : List (RoomOp × RoomOutcome)}
    (h : ((attrSystem key).restrict (Unspoiled key)).Run es s) :
    s.1.Inv ∧ ∀ r, s.1.rooms.get? key = some r → r.Holds s.2 := by
  refine h.invariant (I := fun s => s.1.Inv ∧ ∀ r, s.1.rooms.get? key = some r → r.Holds s.2)
    ⟨inv_new, fun r hr => by cases hr⟩ ?_
  intro s op hs hen
  exact ⟨hs.1.change (call_change hs.1 op),
    fun r' hr' => holds_step hs.1 hen.2 hs.2 hr'⟩

/-! ## 5. Entries with other ids -/

/-- Is the id one of `lo..=hi`, or not an id at all? -/
def keptId (lo hi : UInt16) (x : Option Uint16) : Bool :=
  match Uint16.getVerifiedOpt x with
  | .ok id => lo ≤ id && id ≤ hi
  | .error _ => true

theorem keptId_of_ok {id : UInt16} (h : getVerifiedOpt x = .ok id) :
    keptId lo hi x = false ↔ id < lo ∨ hi < id := by
  rw [keptId, h]
  simp only [Bool.and_eq_false_iff, decide_eq_false_iff_not, UInt16.not_le]

def AttrLists.sifted (l : AttrLists) : AttrLists where
  ints := l.ints.filter fun a =>
    keptId roomSearchableIntAttrExternal1Id roomSearchableIntAttrExternal8Id a.id
  searchBins := l.searchBins.filter fun a =>
    keptId roomSearchableBinAttrExternal1Id roomSearchableBinAttrExternal1Id a.id
  bins := l.bins.filter fun a => keptId roomBinAttrExternal1Id roomBinAttrExternal2Id a.id

def Np2Structs.CreateJoinRoomRequest.sifted (req : CreateJoinRoomRequest) : CreateJoinRoomRequest :=
  { req with
    roomSearchableIntAttrExternal := req.attrLists.sifted.ints
    roomSearchableBinAttrExternal := req.attrLists.sifted.searchBins
    roomBinAttrExternal := req.attrLists.sifted.bins }

def Np2Structs.SetRoomDataExternalRequest.sifted (req : SetRoomDataExternalRequest) :
    SetRoomDataExternalRequest :=
  { req with
    roomSearchableIntAttrExternal := req.attrLists.sifted.ints
    roomSearchableBinAttrExternal := req.attrLists.sifted.searchBins
    roomBinAttrExternal := req.attrLists.sifted.bins }

def RoomOp.sifted : RoomOp → RoomOp
  | .createRoom comId req cinfo serverId sig now =>
    .createRoom comId req.sifted cinfo serverId sig now
  | .setRoomdataExternal comId req userId => .setRoomdataExternal comId req.sifted userId
  | op => op

namespace Room

theorem binId_of_skipped {a : RoomBinAttr N} (ha : RoomBinAttr.fromProtobuf p = .ok a)
    (h : keptId lo hi p.id = false) : a.id < lo ∨ hi < a.id :=
  (keptId_of_ok (RoomBinAttr.toProtobuf_of_ok ha).1).mp h

theorem searchBinId_of_skipped {a : RoomBinAttr 64} (ha : RoomBinAttr.fromProtobuf p = .ok a)
    (h : keptId roomSearchableBinAttrExternal1Id roomSearchableBinAttrExternal1Id p.id = false) :
    a.id ≠ roomSearchableBinAttrExternal1Id := by
  intro e
  have hid := binId_of_skipped ha h
  rw [e] at hid
  exact hid.elim (UInt16.lt_irrefl _) (UInt16.lt_irrefl _)

theorem intId_of_skipped {p : IntAttr} {a : RoomIntAttr} (ha : RoomIntAttr.fromProtobuf p = .ok a)
    (h : keptId lo hi p.id = false) : a.id < lo ∨ hi < a.id := by
  obtain ⟨id, hid, ha⟩ := except_bind_ok ha
  cases ha
  exact (keptId_of_ok hid).mp h

theorem except_ok_bind {ε β : Type} {x : Except ε α} {a : α} (h : x = .ok a) {f : α → Except ε β} :
    (x >>= f) = f a := by
  rw [h]
  rfl

theorem fromProtobuf_sifted {req : CreateJoinRoomRequest}
    (h : fromProtobuf req now = .ok base) : fromProtobuf req.sifted now = .ok base := by
  unfold fromProtobuf at h ⊢
  obtain ⟨_, hinternal, h⟩ := except_bind_ok h
  obtain ⟨bins, hbins, h⟩ := except_bind_ok h
  obtain ⟨searchBin, hsearch, h⟩ := except_bind_ok h
  obtain ⟨ints, hints, h⟩ := except_bind_ok h
  obtain ⟨_, hsig, h⟩ := except_bind_ok h
  have hbins' := foldlM_filter (fun a : BinAttr => keptId roomBinAttrExternal1Id
    roomBinAttrExternal2Id a.id) (fun s p a ha hskip => if_pos (binId_of_skipped ha hskip)) hbins
  have hsearch' := foldlM_filter (fun a : BinAttr => keptId roomSearchableBinAttrExternal1Id
    roomSearchableBinAttrExternal1Id a.id)
    (fun s p a ha hskip => if_pos (searchBinId_of_skipped ha hskip)) hsearch
  have hints' := foldlM_filter (fun a : IntAttr => keptId roomSearchableIntAttrExternal1Id
    roomSearchableIntAttrExternal8Id a.id)
    (fun s p a ha hskip => if_pos (intId_of_skipped ha hskip)) hints
  rw [← h]
  refine (except_ok_bind hinternal).trans ?_
  refine (except_ok_bind hbins').trans ?_
  refine (except_ok_bind hsearch').trans ?_
  refine (except_ok_bind hints').trans ?_
  exact except_ok_bind hsig

theorem setExternal_sifted (h : setExternal req userId r = (.ok (), r')) :
    setExternal req.sifted userId r = (.ok (), r') := by
  obtain ⟨ho, r₁, r₂, h₁, h₂, h₃⟩ := setExternal_eq_ok.mp h
  refine setExternal_eq_ok.mpr ⟨ho, r₁, r₂, ?_, ?_, ?_⟩
  · refine foldlM_filter _ (fun s p a ha hskip => ?_) h₁
    show ({ s with binAttrExternal := storeAttr _ _ a.id a s.binAttrExternal } : Room) = s
    rw [storeAttr, if_pos (binId_of_skipped ha hskip)]
  · exact foldlM_filter _ (fun s p a ha hskip => if_pos (searchBinId_of_skipped ha hskip)) h₂
  · refine foldlM_filter _ (fun s p a ha hskip => ?_) h₃
    show ({ s with searchIntAttr := storeAttr _ _ a.id a s.searchIntAttr } : Room) = s
    rw [storeAttr, if_pos (intId_of_skipped ha hskip)]

end Room

theorem call_sifted (h : (op.call m).1.isOk = true) : op.sifted.call m = op.call m := by
  cases op with
  | createRoom comId req cinfo serverId sig now =>
    rw [RoomOp.call, mapOk_isOk] at h
    rcases createRoom_rooms m comId req cinfo serverId sig now with
      ⟨⟨e, he⟩, -⟩ | ⟨_, base, _, _, _, _, -, -, hb, -, -, -⟩
    · rw [he] at h
      cases h
    · have hsame : createRoom comId req.sifted cinfo serverId sig now =
          createRoom comId req cinfo serverId sig now := by
        unfold createRoom
        rw [fromProtobuf_sifted hb, hb]
        rfl
      rw [RoomOp.sifted, RoomOp.call, hsame]
      rfl
  | setRoomdataExternal comId req userId =>
    rw [RoomOp.call, mapOk_isOk] at h
    have hsame : setRoomdataExternal comId req.sifted userId m =
        setRoomdataExternal comId req userId m := by
      cases hr : m.rooms.get? (comId, req.roomId) with
      | none =>
        rw [setRoomdataExternal, setOn, read_bind_run, hr] at h
        cases h
      | some room =>
        have hrun : setRoomdataExternal comId req userId m = _ :=
          setOn_run hr (setExternal req userId)
        have hrun' : setRoomdataExternal comId req.sifted userId m = _ :=
          setOn_run hr (setExternal req.sifted userId)
        rw [hrun] at h
        rcases hx : setExternal req userId room with ⟨o, r'⟩
        rw [hx] at h
        cases o with
        | ok u => rw [hrun, hrun', hx, setExternal_sifted hx]
        | err e => cases h
        | panic p => cases h
    show mapOk _ _ m = mapOk _ _ m
    rw [mapOk, mapOk, hsame]
  | joinRoom comId req cinfo sig now => rfl
  | leaveRoom comId roomId userId random => rfl
  | setRoomdataInternal comId req userId now => rfl
  | setRoommemberdataInternal comId req userId now => rfl

/-! ## 6. The result -/

variable {k : Nat}

namespace Room

structure Shows (rd : RoomDataExternal) (log : List AttrLists) (incAttrs : List UInt16) : Prop where
  ints : rd.roomSearchableIntAttrExternal =
    (incAttrs.filter fun id => roomSearchableIntAttrExternal1Id ≤ id &&
      id ≤ roomSearchableIntAttrExternal8Id).map fun id =>
        ⟨Uint16.newFromValue id, lastInt log id⟩
  searchBins : rd.roomSearchableBinAttrExternal =
    (incAttrs.filter (· = roomSearchableBinAttrExternal1Id)).map fun id =>
      ⟨Uint16.newFromValue id, lastSearchBin log⟩
  bins : rd.roomBinAttrExternal =
    (incAttrs.filter fun id => roomBinAttrExternal1Id ≤ id && id ≤ roomBinAttrExternal2Id).map
      fun id => ⟨Uint16.newFromValue id, lastBin log id⟩

variable {id : UInt16}

theorem attrAt_outside (attrs : Vector α n) (hid : ¬(lo ≤ id && id ≤ hi) = true) :
    attrAt lo hi attrs id = none := by
  rw [Bool.and_eq_true, decide_eq_true_iff, decide_eq_true_iff, not_and_or, UInt16.not_le,
    UInt16.not_le] at hid
  exact if_pos hid

theorem Holds.searchInt_eq (h : r.Holds log) (id : UInt16) :
    r.searchInt id = if roomSearchableIntAttrExternal1Id ≤ id &&
      id ≤ roomSearchableIntAttrExternal8Id then some ⟨id, lastInt log id⟩ else none := by
  split
  · rename_i hid
    rw [Bool.and_eq_true, decide_eq_true_iff, decide_eq_true_iff] at hid
    exact h.ints id hid.1 hid.2
  · rename_i hid
    exact attrAt_outside r.searchIntAttr hid

theorem Holds.bin_eq (h : r.Holds log) (id : UInt16) :
    (attrAt roomBinAttrExternal1Id roomBinAttrExternal2Id r.binAttrExternal id).map
      (·.toProtobuf) = if roomBinAttrExternal1Id ≤ id && id ≤ roomBinAttrExternal2Id then
        some ⟨newFromValue id, lastBin log id⟩ else none := by
  split
  · rename_i hid
    rw [Bool.and_eq_true, decide_eq_true_iff, decide_eq_true_iff] at hid
    exact h.bins id hid.1 hid.2
  · rename_i hid
    rw [attrAt_outside r.binAttrExternal hid]
    rfl

theorem Holds.shows (h : r.Holds log) {searchOption : Int32} {incAttrs : List UInt16}
    {rd : RoomDataExternal} (hrd : r.toRoomDataExternal searchOption incAttrs = .ok rd) :
    Shows rd log incAttrs := by
  obtain ⟨owner, _, hrd⟩ := Outcome.bind_eq_ok hrd
  obtain ⟨n, _, hrd⟩ := Outcome.bind_eq_ok hrd
  cases hrd
  refine ⟨?_, ?_, ?_⟩
  · show (incAttrs.filterMap r.searchInt).map _ = _
    rw [filterMap_eq_map_filter h.searchInt_eq, List.map_map]
    rfl
  · refine List.map_congr_left fun id hid => ?_
    rw [h.searchBin, of_decide_eq_true (List.mem_filter.mp hid).2]
  · show (incAttrs.filterMap _).map _ = _
    rw [List.map_filterMap]
    exact filterMap_eq_map_filter h.bin_eq incAttrs

theorem attrAt_position (attrs : Vector α n) (hk : lo.toNat + k ≤ hi.toNat) :
    lo ≤ lo + k.toUInt16 ∧ lo + k.toUInt16 ≤ hi ∧
      attrAt lo hi attrs (lo + k.toUInt16) = attrs[k]? := by
  have hhi := hi.toNat_lt
  have hsmall : k.toUInt16.toNat = k := by
    rw [Nat.toUInt16_eq, UInt16.toNat_ofNat']
    omega
  have hid : (lo + k.toUInt16).toNat = lo.toNat + k := by
    rw [UInt16.toNat_add, hsmall]
    omega
  have hlo : lo ≤ lo + k.toUInt16 := by
    rw [UInt16.le_iff_toNat_le, hid]
    omega
  have hle : lo + k.toUInt16 ≤ hi := by
    rw [UInt16.le_iff_toNat_le, hid]
    omega
  refine ⟨hlo, hle, ?_⟩
  rw [attrAt, if_neg (not_or.mpr ⟨UInt16.not_lt.mpr hlo, UInt16.not_lt.mpr hle⟩),
    UInt16.toNat_sub_of_le _ _ hlo, hid, Nat.add_sub_cancel_left]

theorem Holds.int_id (h : r.Holds log) (hk : k < 8) :
    (r.searchIntAttr[k]).id = roomSearchableIntAttrExternal1Id + k.toUInt16 := by
  have hin : roomSearchableIntAttrExternal1Id.toNat + k ≤
      roomSearchableIntAttrExternal8Id.toNat := by
    show 0x4C + k ≤ 0x53
    omega
  obtain ⟨hlo, hhi, hat⟩ := attrAt_position r.searchIntAttr hin
  have hint := h.ints _ hlo hhi
  rw [searchInt, hat, Vector.getElem?_eq_getElem hk] at hint
  rw [Option.some.inj hint]

theorem Holds.bin_id (h : r.Holds log) (hk : k < 2) :
    (r.binAttrExternal[k]).id = roomBinAttrExternal1Id + k.toUInt16 := by
  have hin : roomBinAttrExternal1Id.toNat + k ≤ roomBinAttrExternal2Id.toNat := by
    show 0x55 + k ≤ 0x56
    omega
  obtain ⟨hlo, hhi, hat⟩ := attrAt_position r.binAttrExternal hin
  have hbin := h.bins _ hlo hhi
  rw [hat, Vector.getElem?_eq_getElem hk, Option.map_some] at hbin
  exact newFromValue_injective (congrArg BinAttr.id (Option.some.inj hbin))

theorem Holds.matchesInt_cons (h : r.Holds log) {f : IntSearchFilter} (fs : List IntSearchFilter)
    {attr : IntAttr} {op : UInt8} (hop : Uint8.getVerifiedOpt f.searchOperator = .ok op)
    (hattr : f.attr = some attr) (hid : getVerifiedOpt attr.id = .ok id)
    (hlo : roomSearchableIntAttrExternal1Id ≤ id) (hhi : id ≤ roomSearchableIntAttrExternal8Id) :
    r.matchesInt (f :: fs) = match Operator.fromU8 op with
      | some o => if o.holds (lastInt log id) attr.num then r.matchesInt fs else return false
      | none => return false := by
  rw [matchesInt, hop]
  refine (Outcome.ok_bind _ _).trans ?_
  rw [hattr]
  simp only [hid, Outcome.ofExcept, Outcome.ok_bind, h.ints id hlo hhi]
  cases Operator.fromU8 op <;> rfl

end Room

/-- **External attributes read back as last written.** For every room of every run in which no
    `set_roomdata_external` of it was malformed, and the accepted requests since its creation: what is
    shown of it are the numbers and bytes last written, 0 and no bytes where nothing was; each
    attribute is stored at the position of its id, within its capacity; an integer filter tests the
    number shown; and entries with other ids change nothing in any request that is accepted. -/
theorem external_attrs_last_written {key : ComId × UInt64} {es : List (RoomOp × RoomOutcome)}
    {m : RoomManager} {log : List AttrLists} {r : Room}
    (h : ((attrSystem key).restrict (Unspoiled key)).Run es (m, log))
    (hr : m.rooms.get? key = some r) :
    (∀ searchOption incAttrs, ∃ rd, r.toRoomDataExternal searchOption incAttrs = .ok rd ∧
      Room.Shows rd log incAttrs) ∧
    (∀ k (hk : k < 8), (r.searchIntAttr[k]).id =
      roomSearchableIntAttrExternal1Id + k.toUInt16) ∧
    (∀ k (hk : k < 2), (r.binAttrExternal[k]).id = roomBinAttrExternal1Id + k.toUInt16 ∧
      (r.binAttrExternal[k]).curSize ≤ 256) ∧
    (r.searchBinAttr.id = roomSearchableBinAttrExternal1Id ∧ r.searchBinAttr.curSize ≤ 64) ∧
    (∀ (f : IntSearchFilter) fs attr op id, Uint8.getVerifiedOpt f.searchOperator = .ok op →
      f.attr = some attr → Uint16.getVerifiedOpt attr.id = .ok id →
      roomSearchableIntAttrExternal1Id ≤ id → id ≤ roomSearchableIntAttrExternal8Id →
      r.matchesInt (f :: fs) = match Operator.fromU8 op with
        | some o => if o.holds (lastInt log id) attr.num then r.matchesInt fs else return false
        | none => return false) ∧
    ∀ (m : RoomManager) (op : RoomOp), (op.call m).1.isOk = true →
      op.sifted.call m = op.call m := by
  obtain ⟨hI, hall⟩ := holds_of_run h
  have hholds : r.Holds log := hall r hr
  refine ⟨?_, ?_, ?_, ?_, ?_, fun m op => call_sifted⟩
  · intro searchOption incAttrs
    obtain ⟨rd, hrd⟩ := (hI.wf hr).exists_toRoomDataExternal searchOption incAttrs
    exact ⟨rd, hrd, hholds.shows hrd⟩
  · exact fun k hk => hholds.int_id hk
  · exact fun k hk => ⟨hholds.bin_id hk, (r.binAttrExternal[k]).curSize_le⟩
  · exact ⟨newFromValue_injective (congrArg BinAttr.id hholds.searchBin),
      r.searchBinAttr.curSize_le⟩
  · exact fun f fs attr op id hop hattr hid hlo hhi =>
      hholds.matchesInt_cons fs hop hattr hid hlo hhi

def openWithNumber : RoomOp :=
  .createRoom zeroComId { roomForTwo with
    roomSearchableIntAttrExternal := [⟨Uint16.newFromValue 0x4C, 5⟩] } (player 1) 0
    ClientSharedSignalingInfo.new 0

def writeNumbers : RoomOp :=
  .setRoomdataExternal zeroComId ⟨1, [⟨Uint16.newFromValue 0x4C, 7⟩,
    ⟨Uint16.newFromValue 0x99, 1⟩, ⟨Uint16.newFromValue 0x4C, 8⟩], [], []⟩ 1

theorem external_attrs_last_written_twice :
    ∃ es m log r rd, ((attrSystem (zeroComId, 1)).restrict (Unspoiled (zeroComId, 1))).Run es
        (m, log) ∧ m.rooms.get? (zeroComId, 1) = some r ∧
      r.toRoomDataExternal 0 [0x4C, 0x4D] = .ok rd ∧
      rd.roomSearchableIntAttrExternal =
        [⟨Uint16.newFromValue 0x4C, 8⟩, ⟨Uint16.newFromValue 0x4D, 0⟩] := by
  have hopen := System.Run.start.step (M := (attrSystem (zeroComId, 1)).restrict
    (Unspoiled (zeroComId, 1))) openWithNumber ⟨trivial, trivial⟩
  have hset := hopen.step writeNumbers ⟨trivial, fun _ h => by cases h⟩
  obtain ⟨m, log, r, hrun, hr, hlog⟩ : ∃ m log r, ((attrSystem (zeroComId, 1)).restrict
      (Unspoiled (zeroComId, 1))).Run _ (m, log) ∧ m.rooms.get? (zeroComId, 1) = some r ∧
      lastInt log 0x4C = 8 ∧ lastInt log 0x4D = 0 := ⟨_, _, _, hset, rfl, rfl, rfl⟩
  obtain ⟨rd, hrd, hshows⟩ := (external_attrs_last_written hrun hr).1 0 [0x4C, 0x4D]
  refine ⟨_, m, log, r, rd, hrun, hr, hrd, hshows.ints.trans ?_⟩
  show [IntAttr.mk _ (lastInt log 0x4C), IntAttr.mk _ (lastInt log 0x4D)] = _
  rw [hlog.1, hlog.2]

end Rpcn
