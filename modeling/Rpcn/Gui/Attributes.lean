/-
  File:      Rpcn/Gui/Attributes.lean
  Subject:   THE ATTRIBUTES OF A GUI ROOM READ BACK AS LAST WRITTEN.

  The game numbers and game byte strings of a room are kept in three arrays: sixteen numbers, two
  byte strings of 256 bytes and fourteen of 64. `set_attr` and `gen_MatchingAttr` each compute the
  place from the type and the id. Entries with other types or ids are ignored, and so nothing that
  is written touches the basic attributes.
-/
import Rpcn.Gui.Quickmatch
import Rpcn.Lib.LastWrite

namespace Rpcn

open Lib Np2Structs Call

/-! ## 1. One room -/

def Np2Structs.MatchingAttr.isFor (attrType attrId : UInt32) (a : MatchingAttr) : Bool :=
  a.attrType = attrType && a.attrId = attrId

variable {a : MatchingAttr}

theorem Np2Structs.MatchingAttr.isFor_iff {attrType attrId : UInt32} :
    a.isFor attrType attrId = true ↔ a.attrType = attrType ∧ a.attrId = attrId := by
  rw [isFor, Bool.and_eq_true, decide_eq_true_iff, decide_eq_true_iff]

variable {α : Type} {n : Nat} {room : GuiRoom}

namespace GuiRoom

def IsGameId (attrId : UInt32) : Prop := 1 ≤ attrId.toNat ∧ attrId.toNat ≤ 16

instance (attrId : UInt32) : Decidable (IsGameId attrId) :=
  inferInstanceAs (Decidable (1 ≤ attrId.toNat ∧ attrId.toNat ≤ 16))

def capacityOf (attrId : UInt32) : Nat := if attrId.toNat ≤ 2 then 256 else 64

def shownOf (a : MatchingAttr) : MatchingAttr :=
  if a.attrType = matchingAttrTypeGameNum then ⟨a.attrType, a.attrId, a.num, []⟩
  else ⟨a.attrType, a.attrId, 0, a.data.take (capacityOf a.attrId)⟩

/-- What is shown under a type and an id after a list of writes: the last of them that is for it, or
    0 and no bytes. -/
def lastShown (log : List MatchingAttr) (attrType attrId : UInt32) : MatchingAttr :=
  ((lastWhere (·.isFor attrType attrId) log).map shownOf).getD ⟨attrType, attrId, 0, []⟩

theorem genMatchingAttr_fromProtobuf {N : Nat} (a : MatchingAttr) (attrId : UInt32) :
    (GuiRoomBinAttr.fromProtobuf a : GuiRoomBinAttr N).genMatchingAttr attrId =
      ⟨matchingAttrTypeGameBin, attrId, 0, a.data.take N⟩ :=
  congrArg (MatchingAttr.mk _ _ _) (take_ofFn_getD a.data)

variable {k : Nat}

theorem toList_setIfInBounds_get (v : Vector α n) (hk : k < n) (a : α) (j : Nat) :
    (v.setIfInBounds k a).toList[j]? = if j = k then some a else v.toList[j]? := by
  rw [Vector.getElem?_toList, Vector.getElem?_setIfInBounds, Vector.getElem?_toList]
  by_cases h : j = k
  · rw [if_pos h, if_pos h.symm, if_pos (h ▸ hk)]
  · rw [if_neg h, if_neg (Ne.symm h)]

theorem genMatchingAttr_setNum (room : GuiRoom) (hk : k < 16) (num attrType attrId : UInt32) :
    ({ room with numAttrs := room.numAttrs.setIfInBounds k num } : GuiRoom).genMatchingAttr
      attrType attrId =
      if attrType = matchingAttrTypeGameNum ∧ attrId.toNat = k + 1 then
        some ⟨attrType, attrId, num, []⟩
      else room.genMatchingAttr attrType attrId := by
  by_cases ht : attrType = matchingAttrTypeGameNum
  · subst ht
    unfold genMatchingAttr numAttr
    dsimp only
    have hbasic : matchingAttrTypeGameNum ≠ matchingAttrTypeBasicNum := by decide
    have hbin : matchingAttrTypeGameNum ≠ matchingAttrTypeGameBin := by decide
    rw [if_neg hbasic, if_neg hbin, if_pos rfl, if_neg hbasic, if_neg hbin, if_pos rfl,
      List.getD_eq_getElem?_getD, toList_setIfInBounds_get _ hk]
    by_cases hid : attrId.toNat = k + 1
    · have hin : ¬ (attrId.toNat = 0 ∨ attrId.toNat > 16) := by omega
      have hpos : attrId.toNat - 1 = k := by omega
      rw [if_neg hin, if_pos hpos, if_pos ⟨rfl, hid⟩]
      rfl
    · have hno : ¬ (matchingAttrTypeGameNum = matchingAttrTypeGameNum ∧ attrId.toNat = k + 1) :=
        fun h => hid h.2
      rw [if_neg hno]
      by_cases hin : attrId.toNat = 0 ∨ attrId.toNat > 16
      · rw [if_pos hin, if_pos hin]
      · have hpos : ¬ attrId.toNat - 1 = k := by omega
        rw [if_neg hin, if_neg hin, if_neg hpos, List.getD_eq_getElem?_getD]
  · rw [if_neg fun h => ht h.1]
    unfold genMatchingAttr
    simp only [if_neg ht]
    rfl

theorem genMatchingAttr_setBig (room : GuiRoom) (hk : k < 2) (a : GuiRoomBinAttr 256)
    (attrType attrId : UInt32) :
    ({ room with bigBinAttrs := room.bigBinAttrs.setIfInBounds k a } : GuiRoom).genMatchingAttr
      attrType attrId =
      if attrType = matchingAttrTypeGameBin ∧ attrId.toNat = k + 1 then
        some (a.genMatchingAttr attrId)
      else room.genMatchingAttr attrType attrId := by
  by_cases ht : attrType = matchingAttrTypeGameBin
  · subst ht
    unfold genMatchingAttr
    dsimp only
    have hbasic : matchingAttrTypeGameBin ≠ matchingAttrTypeBasicNum := by decide
    rw [if_neg hbasic, if_pos rfl, if_neg hbasic, if_pos rfl, toList_setIfInBounds_get _ hk]
    by_cases hid : attrId.toNat = k + 1
    · have hin : attrId.toNat = 1 ∨ attrId.toNat = 2 := by omega
      have hpos : attrId.toNat - 1 = k := by omega
      rw [if_pos hin, if_pos hpos, if_pos ⟨rfl, hid⟩]
      rfl
    · have hno : ¬ (matchingAttrTypeGameBin = matchingAttrTypeGameBin ∧ attrId.toNat = k + 1) :=
        fun h => hid h.2
      rw [if_neg hno]
      by_cases hin : attrId.toNat = 1 ∨ attrId.toNat = 2
      · have hpos : ¬ attrId.toNat - 1 = k := by omega
        rw [if_pos hin, if_pos hin, if_neg hpos]
      · rw [if_neg hin, if_neg hin]
  · rw [if_neg fun h => ht h.1]
    unfold genMatchingAttr
    simp only [if_neg ht]
    rfl

theorem genMatchingAttr_setSmall (room : GuiRoom) (hk : k < 14) (a : GuiRoomBinAttr 64)
    (attrType attrId : UInt32) :
    ({ room with smallBinAttrs := room.smallBinAttrs.setIfInBounds k a } : GuiRoom).genMatchingAttr
      attrType attrId =
      if attrType = matchingAttrTypeGameBin ∧ attrId.toNat = k + 3 then
        some (a.genMatchingAttr attrId)
      else room.genMatchingAttr attrType attrId := by
  by_cases ht : attrType = matchingAttrTypeGameBin
  · subst ht
    unfold genMatchingAttr
    dsimp only
    have hbasic : matchingAttrTypeGameBin ≠ matchingAttrTypeBasicNum := by decide
    rw [if_neg hbasic, if_pos rfl, if_neg hbasic, if_pos rfl, toList_setIfInBounds_get _ hk]
    by_cases hid : attrId.toNat = k + 3
    · have hbig : ¬ (attrId.toNat = 1 ∨ attrId.toNat = 2) := by omega
      have hin : 3 ≤ attrId.toNat ∧ attrId.toNat ≤ 16 := by omega
      have hpos : attrId.toNat - 3 = k := by omega
      rw [if_neg hbig, if_pos hin, if_pos hpos, if_pos ⟨rfl, hid⟩]
      rfl
    · have hno : ¬ (matchingAttrTypeGameBin = matchingAttrTypeGameBin ∧ attrId.toNat = k + 3) :=
        fun h => hid h.2
      rw [if_neg hno]
      by_cases hin : 3 ≤ attrId.toNat ∧ attrId.toNat ≤ 16
      · have hpos : ¬ attrId.toNat - 3 = k := by omega
        rw [if_pos hin, if_pos hin, if_neg hpos]
      · rw [if_neg hin, if_neg hin]
  · rw [if_neg fun h => ht h.1]
    unfold genMatchingAttr
    simp only [if_neg ht]
    rfl

def Writable (attrType attrId : UInt32) : Prop :=
  (attrType = matchingAttrTypeGameBin ∨ attrType = matchingAttrTypeGameNum) ∧ IsGameId attrId

instance (attrType attrId : UInt32) : Decidable (Writable attrType attrId) :=
  inferInstanceAs (Decidable ((attrType = matchingAttrTypeGameBin ∨
    attrType = matchingAttrTypeGameNum) ∧ IsGameId attrId))

theorem cell_iff (h : Writable a.attrType a.attrId) {t : UInt32} (ht : a.attrType = t)
    (hn : a.attrId.toNat = n) (attrType attrId : UInt32) :
    a.attrType = attrType ∧ a.attrId = attrId ∧ Writable attrType attrId ↔
      attrType = t ∧ attrId.toNat = n := by
  constructor
  · intro hc
    exact ⟨hc.1.symm.trans ht, hc.2.1 ▸ hn⟩
  · intro hc
    have htype : a.attrType = attrType := ht.trans hc.1.symm
    have hid : a.attrId = attrId := UInt32.toNat_inj.mp (hn.trans hc.2.symm)
    exact ⟨htype, hid, hid ▸ htype ▸ h⟩

theorem setAttr_ignored (room : GuiRoom) (h : ¬ Writable a.attrType a.attrId) :
    room.setAttr a = room := by
  unfold setAttr
  dsimp only
  split
  · rename_i htype
    have hid : ¬ IsGameId a.attrId := fun hid => h ⟨Or.inl htype, hid⟩
    unfold IsGameId at hid
    rw [if_neg (by omega), if_neg (by omega)]
  · split
    · rename_i htype
      exact if_neg fun hid => h ⟨Or.inr htype, hid⟩
    · rfl

theorem genMatchingAttr_setAttr (room : GuiRoom) (a : MatchingAttr) (attrType attrId : UInt32) :
    (room.setAttr a).genMatchingAttr attrType attrId =
      if a.attrType = attrType ∧ a.attrId = attrId ∧ Writable attrType attrId then some (shownOf a)
      else room.genMatchingAttr attrType attrId := by
  by_cases hw : Writable a.attrType a.attrId
  swap
  · rw [setAttr_ignored room hw, if_neg]
    intro hc
    exact hw (hc.1 ▸ hc.2.1 ▸ hc.2.2)
  obtain ⟨hid, hid'⟩ := hw.2
  unfold setAttr shownOf capacityOf
  dsimp only
  rcases hw.1 with htype | htype
  · have hnum : a.attrType ≠ matchingAttrTypeGameNum := by
      rw [htype]
      decide
    rw [if_pos htype, if_neg hnum]
    by_cases hbig : a.attrId.toNat = 1 ∨ a.attrId.toNat = 2
    · have hcell := cell_iff hw htype (n := a.attrId.toNat - 1 + 1) (by omega) attrType attrId
      have hcap : a.attrId.toNat ≤ 2 := by omega
      rw [if_pos hbig, genMatchingAttr_setBig room (by omega), genMatchingAttr_fromProtobuf,
        if_pos hcap]
      refine ite_congr (propext hcell.symm) (fun hc => ?_) fun _ => rfl
      rw [htype, hc.2.1]
    · have hcell := cell_iff hw htype (n := a.attrId.toNat - 3 + 3) (by omega) attrType attrId
      have hcap : ¬ a.attrId.toNat ≤ 2 := by omega
      rw [if_neg hbig, if_pos (by omega), genMatchingAttr_setSmall room (by omega),
        genMatchingAttr_fromProtobuf, if_neg hcap]
      refine ite_congr (propext hcell.symm) (fun hc => ?_) fun _ => rfl
      rw [htype, hc.2.1]
  · have hbin : a.attrType ≠ matchingAttrTypeGameBin := by
      rw [htype]
      decide
    have hcell := cell_iff hw htype (n := a.attrId.toNat - 1 + 1) (by omega) attrType attrId
    rw [if_neg hbin, if_pos htype, if_pos ⟨hid, hid'⟩, genMatchingAttr_setNum room (by omega),
      if_pos htype]
    refine ite_congr (propext hcell.symm) (fun hc => ?_) fun _ => rfl
    rw [hc.1, hc.2.1]

/-- **The room shows what was written last.** -/
def Holds (room : GuiRoom) (log : List MatchingAttr) : Prop :=
  ∀ attrType attrId, Writable attrType attrId →
    room.genMatchingAttr attrType attrId = some (lastShown log attrType attrId)

variable {log : List MatchingAttr}

theorem Holds.foldl (h : room.Holds log) (attrs : List MatchingAttr) :
    (attrs.foldl setAttr room).Holds (log ++ attrs) := by
  intro attrType attrId hw
  have hwrite (room : GuiRoom) (a : MatchingAttr) :
      (room.setAttr a).genMatchingAttr attrType attrId =
        if a.isFor attrType attrId then some (shownOf a)
        else room.genMatchingAttr attrType attrId := by
    rw [genMatchingAttr_setAttr]
    refine ite_congr (propext ?_) (fun _ => rfl) fun _ => rfl
    rw [MatchingAttr.isFor_iff, ← and_assoc, and_iff_left hw]
  rw [read_foldl (genMatchingAttr · attrType attrId) hwrite, h attrType attrId hw, lastShown,
    lastShown, lastWhere_append]
  cases lastWhere (·.isFor attrType attrId) attrs <;> rfl

structure SameAttrs (room room' : GuiRoom) : Prop where
  numAttrs : room'.numAttrs = room.numAttrs
  bigBinAttrs : room'.bigBinAttrs = room.bigBinAttrs
  smallBinAttrs : room'.smallBinAttrs = room.smallBinAttrs

theorem Holds.same {room' : GuiRoom} (h : room.Holds log) (hs : SameAttrs room room') :
    room'.Holds log := by
  intro attrType attrId hw
  rw [← h attrType attrId hw]
  have hbasic : attrType ≠ matchingAttrTypeBasicNum := by
    rcases hw.1 with rfl | rfl <;> decide
  unfold genMatchingAttr numAttr
  rw [if_neg hbasic, if_neg hbasic, hs.numAttrs, hs.bigBinAttrs, hs.smallBinAttrs]

structure Blank (room : GuiRoom) : Prop where
  numAttrs : room.numAttrs = Vector.replicate 16 0
  bigBinAttrs : room.bigBinAttrs = Vector.replicate 2 .default
  smallBinAttrs : room.smallBinAttrs = Vector.replicate 14 .default

theorem Blank.holds (h : Blank room) : room.Holds [] := by
  intro attrType attrId hw
  obtain ⟨hid, hid'⟩ := hw.2
  have hbasic : attrType ≠ matchingAttrTypeBasicNum := by
    rcases hw.1 with rfl | rfl <;> decide
  unfold genMatchingAttr numAttr
  dsimp only
  rw [if_neg hbasic, h.bigBinAttrs, h.smallBinAttrs, h.numAttrs, Vector.toList_replicate,
    Vector.toList_replicate, Vector.toList_replicate, List.getElem?_replicate,
    List.getElem?_replicate, List.getD_eq_getElem?_getD, List.getElem?_replicate]
  rcases hw.1 with rfl | rfl
  · rw [if_pos rfl]
    by_cases hbig : attrId.toNat = 1 ∨ attrId.toNat = 2
    · rw [if_pos hbig, if_pos (by omega)]
      rfl
    · rw [if_neg hbig, if_pos (by omega), if_pos (by omega)]
      rfl
  · have hbin : matchingAttrTypeGameNum ≠ matchingAttrTypeGameBin := by decide
    rw [if_neg hbin, if_pos rfl, if_neg (by omega), if_pos (by omega)]
    rfl

theorem holds_fromProtobuf (req : CreateRoomGuiRequest) (comId : ComId) :
    (fromProtobuf req comId).Holds req.gameAttrs := by
  change (fromProtobuf req comId).Holds ([] ++ req.gameAttrs)
  rw [fromProtobuf]
  exact Holds.foldl (Blank.holds ⟨rfl, rfl, rfl⟩) req.gameAttrs

def takenFrom (conds : List MatchingSearchCondition) : List MatchingAttr :=
  conds.filterMap fun c =>
    if c.attrType = matchingAttrTypeGameNum ∧ c.compOp = matchingConditionSearchEq then
      some ⟨c.attrType, c.attrId, c.compValue, []⟩
    else none

theorem foldl_takeCond (conds : List MatchingSearchCondition) (room : GuiRoom) :
    conds.foldl takeCond room = (takenFrom conds).foldl setAttr room := by
  induction conds generalizing room with
  | nil => rfl
  | cons c conds ih =>
    rw [List.foldl_cons, ih]
    unfold takenFrom
    rw [List.filterMap_cons]
    by_cases hc : c.attrType = matchingAttrTypeGameNum ∧ c.compOp = matchingConditionSearchEq
    · have hbin : matchingAttrTypeGameNum ≠ matchingAttrTypeGameBin := by decide
      rw [if_pos hc, List.foldl_cons]
      congr 1
      unfold takeCond setAttr
      dsimp only
      rw [hc.1, if_neg hbin, if_pos rfl]
      exact ite_congr (propext ⟨fun h => h.2.1, fun h => ⟨rfl, h, hc.2⟩⟩) (fun _ => rfl)
        fun _ => rfl
    · rw [if_neg hc]
      congr 1
      exact if_neg fun h => hc ⟨h.1, h.2.2⟩

theorem holds_fromQuickmatchProtobuf (req : QuickMatchGuiRequest) (comId : ComId) :
    (fromQuickmatchProtobuf req comId).Holds (takenFrom req.conds) := by
  change (fromQuickmatchProtobuf req comId).Holds ([] ++ takenFrom req.conds)
  rw [fromQuickmatchProtobuf, foldl_takeCond]
  exact Holds.foldl (Blank.holds ⟨rfl, rfl, rfl⟩) (takenFrom req.conds)

end GuiRoom

/-! ## 2. Runs -/

/-- **The attributes written to the room with an id**, since it was opened. -/
def attrLog (roomId : GuiRoomId) (_ : GuiRoomManager) (op : GuiOp)
    (res : (GuiOutcome × Option GuiRoomId) × GuiRoomManager) (log : List MatchingAttr) :
    List MatchingAttr :=
  match op with
  | .createRoomGui _ req _ => if res.1.2 = some roomId then req.gameAttrs else log
  | .quickmatchGui _ req _ _ =>
    if res.1.2 = some roomId then GuiRoom.takenFrom req.conds else log
  | .setRoomInfoGui i attrs _ => if i = roomId ∧ res.1.1.isOk then log ++ attrs else log
  | _ => log

abbrev guiAttrSystem (roomId : GuiRoomId) :
    System (GuiRoomManager × List MatchingAttr) GuiOp (GuiOutcome × Option GuiRoomId) :=
  guiSystem.observed [] (attrLog roomId)

variable (comId : ComId) (roomId : GuiRoomId) (cinfo : ClientInfo) {m : GuiRoomManager}

namespace GuiRoomManager

section Keeps

variable {k : GuiRoomId} {log : List MatchingAttr}

/-- The room with the id, if there is one, shows what was written last. -/
def Shows (k : GuiRoomId) (log : List MatchingAttr) (m : GuiRoomManager) : Prop :=
  ∀ room, m.rooms.get? k = some room → room.Holds log

abbrev Leaves (k : GuiRoomId) (log : List MatchingAttr) {α : Type} (c : GuiCall α) : Prop :=
  Call.Keeps (fun m m' => Shows k log m → Shows k log m') c

theorem Shows.of_insert {m' : GuiRoomManager} (h : Shows k log m) {log' : List MatchingAttr}
    {roomId : GuiRoomId} (hm : m'.rooms = m.rooms.insert roomId room)
    (hroom : k = roomId → room.Holds log') (hlog : k ≠ roomId → log' = log) : Shows k log' m' := by
  intro room' hr
  rw [hm, HashMap.get?_insert] at hr
  by_cases hk : k = roomId
  · rw [if_pos hk] at hr
    cases hr
    exact hroom hk
  · rw [if_neg hk] at hr
    rw [hlog hk]
    exact h room' hr

theorem Shows.putRoom (h : Shows k log m) {roomId : GuiRoomId}
    (hroom : roomId = k → room.Holds log) : Shows k log (m.putRoom roomId room) :=
  h.of_insert rfl (fun hk => hroom hk.symm) fun _ => rfl

theorem leaves_bind {β : Type} {c : GuiCall α} {f : α → GuiCall β} (hc : Leaves k log c)
    (hf : ∀ a, Leaves k log (f a)) : Leaves k log (c >>= f) :=
  keeps_bind (fun _ _ _ h h' hs => h' (h hs)) hc hf

theorem leaves_of_state {c : GuiCall α} (h : ∀ m, (c m).2 = m) : Leaves k log c := by
  intro m hs
  rw [h m]
  exact hs

theorem leaves_check (b : Bool) (p : GuiPanic) : Leaves k log (check b p) := by
  cases b <;> exact leaves_of_state fun _ => rfl

theorem leaves_readRoom : Leaves k log (readRoom roomId) := by
  refine leaves_of_state fun m => ?_
  rw [readRoom, read_bind_run]
  cases m.rooms.get? roomId <;> rfl

theorem leaves_addMemberToRoom (owner : Bool) :
    Leaves k log (addMemberToRoom roomId cinfo owner) := by
  intro m hs
  cases hr : m.rooms.get? roomId with
  | none =>
    rw [addMemberToRoom, read_bind_run, hr]
    exact hs
  | some room =>
    rw [addMemberToRoom_run hr]
    exact hs.putRoom fun hk => (hs room (hk ▸ hr)).same ⟨rfl, rfl, rfl⟩

theorem leaves_joinRoomGui : Leaves k log (joinRoomGui roomId cinfo) := by
  refine leaves_bind (leaves_of_state fun _ => rfl) fun m => ?_
  refine leaves_bind (keeps_ofExcept (fun _ h => h) _) fun room => ?_
  refine keeps_ite (leaves_of_state fun _ => rfl) ?_
  refine keeps_ite (leaves_of_state fun _ => rfl) ?_
  refine leaves_bind (leaves_addMemberToRoom roomId cinfo false) fun _ => ?_
  exact leaves_bind (leaves_readRoom roomId) fun _ => leaves_of_state fun _ => rfl

theorem leaves_searchJoinGui (req : SearchJoinRoomGuiRequest) (cinfo : ClientInfo)
    (order : List GuiRoomId) : Leaves k log (searchJoinGui comId req cinfo order) := by
  refine leaves_bind (leaves_of_state fun _ => rfl) fun m => ?_
  refine leaves_bind (keeps_ofPanic (fun _ h => h) _) fun found => ?_
  cases found with
  | none => exact leaves_of_state fun _ => rfl
  | some roomId =>
    refine leaves_bind (leaves_readRoom roomId) fun _ => ?_
    refine leaves_bind (leaves_addMemberToRoom roomId cinfo false) fun _ => ?_
    exact leaves_bind (leaves_readRoom roomId) fun _ => leaves_of_state fun _ => rfl

theorem leaves_completeQuickmatch : Leaves k log (completeQuickmatch roomId cinfo) := by
  intro m hs
  cases hr : m.rooms.get? roomId with
  | none =>
    rw [completeQuickmatch, read_bind_run, hr]
    exact hs
  | some room =>
    obtain ⟨n, stealth, hrun⟩ := completeQuickmatch_run hr cinfo
    rw [hrun]
    exact hs.putRoom fun hk => (hs room (hk ▸ hr)).same ⟨rfl, rfl, rfl⟩

theorem leaves_dropUserRoom (userId : UserId) : Leaves k log (dropUserRoom roomId userId) := by
  intro m hs
  rw [dropUserRoom, read_bind_run]
  cases m.userRooms.get? userId <;> exact hs

theorem leaves_removeRoom : Leaves k log (removeRoom comId roomId) := by
  refine keeps_read_bind fun m hs => ?_
  refine leaves_bind (keeps_unwrap (fun _ h => h) _ _) (fun filed => ?_) m hs
  refine leaves_bind (fun _ _ => hs) fun _ => ?_
  refine leaves_bind (leaves_check _ _) fun _ => ?_
  refine leaves_bind (keeps_modify fun m hs => ?_) fun _ => leaves_check _ _
  intro room hr
  change (m.rooms.remove roomId).get? k = some room at hr
  rw [HashMap.get?_remove] at hr
  split at hr
  · cases hr
  · exact hs room hr

theorem leaves_afterLeave {roomId : GuiRoomId} (hroom : roomId = k → room.Holds log)
    (memberLeft : GuiRoomMember) (order : List UserId) (random : Nat) :
    Leaves k log (afterLeave roomId room memberLeft order random) := by
  refine keeps_ite ?_ (keeps_ite (keeps_ite ?_ ?_) (leaves_of_state fun _ => rfl))
  · exact leaves_bind (leaves_removeRoom _ roomId) fun _ => leaves_of_state fun _ => rfl
  · refine leaves_bind (keeps_forM (fun _ h => h) (fun _ _ _ h h' hs => h' (h hs))
      fun userId _ => leaves_dropUserRoom roomId userId) fun _ => ?_
    exact leaves_bind (leaves_removeRoom _ roomId) fun _ => leaves_of_state fun _ => rfl
  · refine leaves_bind (keeps_unwrap (fun _ h => h) _ _) fun newOwner => ?_
    refine leaves_bind (keeps_unwrap (fun _ h => h) _ _) fun member => ?_
    refine leaves_bind (keeps_modify fun m hs => ?_) fun _ => leaves_of_state fun _ => rfl
    exact hs.putRoom fun hk => (hroom hk).same ⟨rfl, rfl, rfl⟩

theorem leaves_leaveRoomGui (order : List UserId) (random : Nat) :
    Leaves k log (leaveRoomGui roomId cinfo order random) := by
  refine keeps_read_bind fun m hs => ?_
  cases hr : m.rooms.get? roomId with
  | none =>
    rw [roomOrMissing, hr]
    exact hs
  | some room =>
    rw [roomOrMissing, hr, bind_ok (ofExcept_ok room m)]
    cases memberOrNotFound room cinfo.userId with
    | error e => exact hs
    | ok memberLeft =>
      rw [bind_ok (ofExcept_ok memberLeft m)]
      have hroom : roomId = k →
          ({ room with members := room.members.remove cinfo.userId } : GuiRoom).Holds log :=
        fun hk => (hs room (hk ▸ hr)).same ⟨rfl, rfl, rfl⟩
      refine leaves_bind (fun _ _ => hs.putRoom hroom) (fun _ => ?_) m hs
      exact leaves_bind (leaves_dropUserRoom roomId cinfo.userId) fun _ =>
        leaves_afterLeave hroom memberLeft order random

theorem leaves_setSearchFlag (stealth : Bool) (userId : UserId) :
    Leaves k log (setSearchFlag roomId stealth userId) := by
  refine keeps_read_bind fun m hs => ?_
  cases h : m.getRoomAndCheckOwnership roomId userId with
  | error e => exact hs
  | ok room =>
    rw [bind_ok (ofExcept_ok room m)]
    exact hs.putRoom fun hk =>
      (hs room (hk ▸ getRoomAndCheckOwnership_ok h)).same ⟨rfl, rfl, rfl⟩

theorem Shows.opened (h : Shows k log m) {comId : ComId} {roomId : GuiRoomId}
    {attrs : List MatchingAttr} (hroom : room.Holds attrs) (cinfo : ClientInfo) :
    Shows k (if some roomId = some k then attrs else log)
      (m.opened comId roomId (room.addMember cinfo true) cinfo.userId) := by
  refine h.of_insert rfl (fun hk => ?_) fun hk => ?_
  · rw [if_pos (by rw [hk])]
    exact hroom.same ⟨rfl, rfl, rfl⟩
  · exact if_neg fun e => hk (Option.some.inj e).symm

theorem shows_createRoomGui {m : GuiRoomManager} (h : Shows k log m) (comId : ComId)
    (req : CreateRoomGuiRequest) (cinfo : ClientInfo) :
    Shows k (if roomIdOf comId m.curRoomId = some k then req.gameAttrs else log)
      (createRoomGui comId req cinfo m).2 := by
  cases hid : roomIdOf comId m.curRoomId with
  | none =>
    unfold createRoomGui
    rw [bind_panic (openRoom_none hid _ cinfo)]
    exact h
  | some roomId =>
    rw [createRoomGui_opens hid]
    exact h.opened (GuiRoom.holds_fromProtobuf req comId) cinfo

theorem shows_quickmatchGui {m : GuiRoomManager} (h : Shows k log m) (comId : ComId)
    (req : QuickMatchGuiRequest) (cinfo : ClientInfo) (order : List GuiRoomId) :
    Shows k (if (GuiOp.quickmatchGui comId req cinfo order).generated m = some k then
        GuiRoom.takenFrom req.conds else log) (quickmatchGui comId req cinfo order m).2 := by
  rw [GuiOp.generated]
  unfold quickmatchGui
  rw [bind_ok (read_run m)]
  cases hf : m.searchRooms comId (·.isQuickmatch req) order with
  | error p => exact h
  | ok found =>
    rw [bind_ok (ofPanic_ok found m)]
    cases found with
    | some roomId =>
      refine leaves_bind ?_ (fun _ => ?_) m h
      · exact leaves_bind (leaves_addMemberToRoom roomId cinfo false) fun _ =>
          leaves_of_state fun _ => rfl
      · exact leaves_bind (leaves_completeQuickmatch _ cinfo) fun _ =>
          leaves_of_state fun _ => rfl
    | none =>
      change Shows k (if roomIdOf comId m.curRoomId = some k then _ else _) _
      unfold enterQuickmatch
      cases hid : roomIdOf comId m.curRoomId with
      | none =>
        rw [bind_panic (openRoom_none hid _ cinfo)]
        exact h
      | some roomId =>
        have hopened : Shows k _ (m.opened comId roomId _ cinfo.userId) :=
          h.opened (GuiRoom.holds_fromQuickmatchProtobuf req comId) cinfo
        refine entry_bind (openRoom_some hid _ cinfo) hopened ?_
        refine leaves_bind (leaves_completeQuickmatch roomId cinfo) (fun _ => ?_) _ hopened
        exact leaves_of_state fun _ => rfl

theorem shows_setRoomInfoGui (h : Shows k log m) (roomId : GuiRoomId) (attrs : List MatchingAttr)
    (userId : UserId) :
    Shows k (if roomId = k ∧ (setRoomInfoGui roomId attrs userId m).1.isOk then log ++ attrs else log)
      (setRoomInfoGui roomId attrs userId m).2 := by
  unfold setRoomInfoGui
  rw [bind_ok (read_run m)]
  cases hown : m.getRoomAndCheckOwnership roomId userId with
  | error e =>
    rw [if_neg fun hc => by cases hc.2]
    exact h
  | ok room =>
    rw [bind_ok (ofExcept_ok room m), write_run]
    refine h.of_insert rfl (fun hk => ?_) fun hk => ?_
    · rw [if_pos ⟨hk.symm, rfl⟩]
      exact (h room (hk ▸ getRoomAndCheckOwnership_ok hown)).foldl attrs
    · exact if_neg fun hc => hk hc.1.symm

theorem shows_call (h : Shows k log m) (op : GuiOp) :
    Shows k (attrLog k m op (((op.call m).1, op.generated m), (op.call m).2) log) (op.call m).2 := by
  cases op with
  | createRoomGui comId req cinfo =>
    rw [GuiOp.call, mapOk_state]
    exact shows_createRoomGui h comId req cinfo
  | quickmatchGui comId req cinfo order =>
    rw [GuiOp.call, mapOk_state]
    exact shows_quickmatchGui h comId req cinfo order
  | setRoomInfoGui roomId attrs userId =>
    simp only [attrLog, GuiOp.call, mapOk_state, mapOk_isOk]
    exact shows_setRoomInfoGui h roomId attrs userId
  | joinRoomGui roomId cinfo =>
    rw [GuiOp.call, mapOk_state]
    exact leaves_joinRoomGui roomId cinfo m h
  | leaveRoomGui roomId cinfo order random =>
    rw [GuiOp.call, mapOk_state]
    exact leaves_leaveRoomGui roomId cinfo order random m h
  | searchJoinGui comId req cinfo order =>
    rw [GuiOp.call, mapOk_state]
    exact leaves_searchJoinGui comId req cinfo order m h
  | setSearchFlag roomId stealth userId =>
    rw [GuiOp.call, mapOk_state]
    exact leaves_setSearchFlag roomId stealth userId m h
  | getRoomListGui comId req order =>
    rw [GuiOp.call, bind_ok (read_run m)]
    cases m.getRoomListGui comId req order <;> exact h
  | getSearchFlag roomId =>
    rw [GuiOp.call, mapOk_state, look_state]
    exact h
  | getRoomInfoGui roomId attrs =>
    rw [GuiOp.call, mapOk_state, look_state]
    exact h

end Keeps

end GuiRoomManager

theorem shows_of_run {roomId : GuiRoomId} {es : List (GuiOp × GuiOutcome × Option GuiRoomId)}
    {s : GuiRoomManager × List MatchingAttr} (h : (guiAttrSystem roomId).Run es s) :
    GuiRoomManager.Shows roomId s.2 s.1 := by
  refine h.invariant (I := fun s => GuiRoomManager.Shows roomId s.2 s.1)
    (fun room hr => by cases hr) ?_
  intro s op hs _
  exact GuiRoomManager.shows_call hs op

/-! ## 3. The result -/

variable (attrId : UInt32)

namespace GuiRoom

def lastNum (log : List MatchingAttr) (attrId : UInt32) : UInt32 :=
  ((lastWhere (·.isFor matchingAttrTypeGameNum attrId) log).map (·.num)).getD 0

def lastData (log : List MatchingAttr) (attrId : UInt32) : List UInt8 :=
  ((lastWhere (·.isFor matchingAttrTypeGameBin attrId) log).map (·.data)).getD []

/-- **What is shown under a type and an id.** -/
def expected (room : GuiRoom) (log : List MatchingAttr) (attrType attrId : UInt32) :
    Option MatchingAttr :=
  if attrType = matchingAttrTypeGameNum then
    if IsGameId attrId then some ⟨attrType, attrId, lastNum log attrId, []⟩ else none
  else if attrType = matchingAttrTypeGameBin then
    if IsGameId attrId then
      some ⟨attrType, attrId, 0, (lastData log attrId).take (capacityOf attrId)⟩
    else none
  else if attrType = matchingAttrTypeBasicNum then
    (room.basicNum attrId).map fun num => ⟨attrType, attrId, num, []⟩
  else none

variable (log : List MatchingAttr)

theorem lastShown_num :
    lastShown log matchingAttrTypeGameNum attrId =
      ⟨matchingAttrTypeGameNum, attrId, lastNum log attrId, []⟩ := by
  rw [lastShown, lastNum]
  cases h : lastWhere (·.isFor matchingAttrTypeGameNum attrId) log with
  | none => rfl
  | some a =>
    obtain ⟨htype, hid⟩ := MatchingAttr.isFor_iff.mp (lastWhere_some h)
    rw [Option.map_some, Option.getD_some, shownOf, if_pos htype, htype, hid]
    rfl

theorem lastShown_bin :
    lastShown log matchingAttrTypeGameBin attrId =
      ⟨matchingAttrTypeGameBin, attrId, 0, (lastData log attrId).take (capacityOf attrId)⟩ := by
  rw [lastShown, lastData]
  cases h : lastWhere (·.isFor matchingAttrTypeGameBin attrId) log with
  | none => simp
  | some a =>
    obtain ⟨htype, hid⟩ := MatchingAttr.isFor_iff.mp (lastWhere_some h)
    have hnum : matchingAttrTypeGameBin ≠ matchingAttrTypeGameNum := by decide
    rw [Option.map_some, Option.getD_some, shownOf, htype, if_neg hnum, hid]
    rfl

theorem Holds.expected {log : List MatchingAttr} (h : room.Holds log) (attrType attrId : UInt32) :
    room.genMatchingAttr attrType attrId = room.expected log attrType attrId := by
  unfold GuiRoom.expected
  by_cases hw : Writable attrType attrId
  · rw [h attrType attrId hw]
    rcases hw.1 with rfl | rfl
    · have hnum : matchingAttrTypeGameBin ≠ matchingAttrTypeGameNum := by decide
      rw [lastShown_bin, if_neg hnum, if_pos rfl, if_pos hw.2]
    · rw [lastShown_num, if_pos rfl, if_pos hw.2]
  · have hnum : attrType = matchingAttrTypeGameNum → ¬ IsGameId attrId :=
      fun ht hid => hw ⟨Or.inr ht, hid⟩
    have hbin : attrType = matchingAttrTypeGameBin → ¬ IsGameId attrId :=
      fun ht hid => hw ⟨Or.inl ht, hid⟩
    have hbasic : matchingAttrTypeBasicNum ≠ matchingAttrTypeGameNum := by decide
    have hbasic' : matchingAttrTypeBasicNum ≠ matchingAttrTypeGameBin := by decide
    unfold genMatchingAttr
    dsimp only
    by_cases ht : attrType = matchingAttrTypeBasicNum
    · rw [if_pos ht, if_neg (ht ▸ hbasic), if_neg (ht ▸ hbasic'), if_pos ht]
    rw [if_neg ht, if_neg ht]
    by_cases htbin : attrType = matchingAttrTypeGameBin
    · have hout : ¬ (1 ≤ attrId.toNat ∧ attrId.toNat ≤ 16) := hbin htbin
      have htnum : attrType ≠ matchingAttrTypeGameNum := by
        rw [htbin]
        decide
      rw [if_pos htbin, if_neg (by omega), if_neg (by omega), if_neg htnum, if_pos htbin,
        if_neg (hbin htbin)]
    rw [if_neg htbin, if_neg htbin]
    by_cases htnum : attrType = matchingAttrTypeGameNum
    · have hout : ¬ (1 ≤ attrId.toNat ∧ attrId.toNat ≤ 16) := hnum htnum
      rw [if_pos htnum, if_pos htnum, if_pos (by omega), if_neg (hnum htnum)]
    · rw [if_neg htnum, if_neg htnum]

theorem basicNum_setAttr (room : GuiRoom) (a : MatchingAttr) (attrId : UInt32) :
    (room.setAttr a).genMatchingAttr matchingAttrTypeBasicNum attrId =
      room.genMatchingAttr matchingAttrTypeBasicNum attrId := by
  rw [genMatchingAttr_setAttr, if_neg]
  intro hc
  rcases hc.2.2.1 with h | h <;> exact absurd h (by decide)

end GuiRoom

/-- **GUI attributes read back as last written.** For every room of every run and the attributes
    written to it since it was opened: `get_room_info_gui` shows under a game id the number, or the
    bytes as far as there is place for them, written last, 0 and no bytes where nothing was, and
    nothing under other ids; and a write changes neither what is shown under another type or id
    nor a basic attribute. -/
theorem gui_attrs_last_written {roomId : GuiRoomId}
    {es : List (GuiOp × GuiOutcome × Option GuiRoomId)} {m : GuiRoomManager}
    {log : List MatchingAttr} {room : GuiRoom} (h : (guiAttrSystem roomId).Run es (m, log))
    (hr : m.rooms.get? roomId = some room) :
    (∀ attrs : List MatchingAttr, m.getRoomInfoGui roomId attrs = .ok ⟨roomId.toList,
      attrs.filterMap fun a => room.expected log a.attrType a.attrId⟩) ∧
    (∀ (room : GuiRoom) (a : MatchingAttr) attrType attrId,
      (a.attrType, a.attrId) ≠ (attrType, attrId) →
      (room.setAttr a).genMatchingAttr attrType attrId = room.genMatchingAttr attrType attrId) ∧
    ∀ (room : GuiRoom) (a : MatchingAttr) attrId,
      (room.setAttr a).genMatchingAttr matchingAttrTypeBasicNum attrId =
        room.genMatchingAttr matchingAttrTypeBasicNum attrId := by
  have hholds : room.Holds log := shows_of_run h room hr
  refine ⟨fun attrs => ?_, ?_, GuiRoom.basicNum_setAttr⟩
  · unfold GuiRoomManager.getRoomInfoGui GuiRoomManager.roomOrMissing
    rw [hr]
    show Except.ok (MatchingRoom.mk _ _) = _
    rw [GuiRoom.genAttrs, GuiRoom.parsedAttrs, List.filterMap_map]
    refine congrArg (fun l => Except.ok (MatchingRoom.mk roomId.toList l)) ?_
    exact List.filterMap_congr fun a _ => hholds.expected a.attrType a.attrId
  · intro room a attrType attrId hne
    rw [GuiRoom.genMatchingAttr_setAttr, if_neg]
    intro hc
    exact hne (by rw [hc.1, hc.2.1])

def gameNum (attrId num : UInt32) : MatchingAttr := ⟨matchingAttrTypeGameNum, attrId, num, []⟩

theorem gui_attrs_last_written_again :
    ∃ es m log, (guiAttrSystem firstRoomId).Run es (m, log) ∧
      m.getRoomInfoGui firstRoomId [gameNum 1 0, gameNum 2 0, gameNum 17 0] =
        .ok ⟨firstRoomId.toList, [gameNum 1 7, gameNum 2 0]⟩ := by
  have hopen := System.Run.start.step (M := guiAttrSystem firstRoomId)
    (GuiOp.createRoomGui letterComId ⟨4, 0, true, false, [gameNum 1 5]⟩ (guest 1)) trivial
  have hset := hopen.step (GuiOp.setRoomInfoGui firstRoomId [gameNum 1 7, gameNum 17 9] 1) trivial
  obtain ⟨m, log, room, hrun, hr, hlog⟩ : ∃ m log room, (guiAttrSystem firstRoomId).Run _ (m, log) ∧
      m.rooms.get? firstRoomId = some room ∧
      (GuiRoom.lastNum log 1, GuiRoom.lastNum log 2) = (7, 0) := ⟨_, _, _, hset, rfl, rfl⟩
  obtain ⟨h₁, h₂⟩ := Prod.mk.inj hlog
  refine ⟨_, m, log, hrun, ((gui_attrs_last_written hrun hr).1 _).trans ?_⟩
  show Except.ok (MatchingRoom.mk _ [MatchingAttr.mk _ _ (GuiRoom.lastNum log 1) _,
    MatchingAttr.mk _ _ (GuiRoom.lastNum log 2) _]) = _
  rw [h₁, h₂]
  rfl

end Rpcn
