/-
  File:      Rpcn/Gui/Quickmatch.lean
  Subject:   DO EQUAL QUICK MATCHES MEET? `from_quickmatch_protobuf` and `is_quickmatch`.

  A quick match that finds no room makes one from its own request. The numbers of the room are those
  of the equations, the last one of each id; its size is cut to 64. The test that the next player's
  request has to pass takes the size as it was asked for and every equation and inequality on the
  first eight numbers. So a request can make a room that it does not match itself.
-/
import Rpcn.Gui.Consistency

namespace Rpcn

open Lib Np2Structs Call

/-! ## 1. The room of a request -/

namespace Np2Structs.MatchingSearchCondition

def Sets (c : MatchingSearchCondition) (attrId : UInt32) : Prop :=
  c.attrType = matchingAttrTypeGameNum ∧ c.attrId = attrId ∧ c.compOp = matchingConditionSearchEq

instance (c : MatchingSearchCondition) (attrId : UInt32) : Decidable (c.Sets attrId) :=
  inferInstanceAs (Decidable (_ ∧ _))

/-- The condition is on one of the eight numbers that `is_quickmatch` looks at. -/
def Searchable (c : MatchingSearchCondition) : Prop :=
  c.attrType = matchingAttrTypeGameNum ∧ c.attrId ≠ 0 ∧ c.attrId ≤ 8

instance (c : MatchingSearchCondition) : Decidable c.Searchable :=
  inferInstanceAs (Decidable (_ ∧ _))

end Np2Structs.MatchingSearchCondition

/-- **The number a list of conditions gives the room**: that of the last equation on the id, else
    the one it had. -/
def wantedFrom (attrId : UInt32) (conds : List MatchingSearchCondition) (value : UInt32) : UInt32 :=
  conds.foldl (fun v c => if c.Sets attrId then c.compValue else v) value

abbrev wanted (conds : List MatchingSearchCondition) (attrId : UInt32) : UInt32 :=
  wantedFrom attrId conds 0

/-- **The request matches the room it makes**: it asks for 64 places at most, its equations on one
    number agree, and no inequality excludes the number that the equations set, or 0. -/
structure Np2Structs.QuickMatchGuiRequest.Consistent (q : QuickMatchGuiRequest) : Prop where
  places : q.availableNum ≤ 64
  equations : ∀ c ∈ q.conds, c.Searchable → c.compOp = matchingConditionSearchEq →
    c.compValue = wanted q.conds c.attrId
  inequalities : ∀ c ∈ q.conds, c.Searchable → c.compOp = matchingConditionSearchNe →
    c.compValue ≠ wanted q.conds c.attrId

variable (room : GuiRoom) (c : MatchingSearchCondition) (conds : List MatchingSearchCondition)
  (q : QuickMatchGuiRequest) {attrId : UInt32}

namespace GuiRoom

theorem takeCond_eq : room.takeCond c = { room with numAttrs := (room.takeCond c).numAttrs } := by
  unfold takeCond
  dsimp only
  split
  · rfl
  · rfl

theorem foldl_takeCond_eq (room : GuiRoom) :
    conds.foldl takeCond room = { room with numAttrs := (conds.foldl takeCond room).numAttrs } := by
  induction conds generalizing room with
  | nil => rfl
  | cons c conds ih =>
    rw [List.foldl_cons, ih (room.takeCond c)]
    rw [room.takeCond_eq c]

theorem numAttr_takeCond (h1 : 1 ≤ attrId.toNat) (h16 : attrId.toNat ≤ 16) :
    (room.takeCond c).numAttr attrId =
      if c.Sets attrId then c.compValue else room.numAttr attrId := by
  unfold takeCond numAttr
  dsimp only
  split
  · rename_i hc
    obtain ⟨htype, ⟨hlo, hhi⟩, hop⟩ := hc
    rw [Vector.toList_setIfInBounds, List.getD_eq_getElem?_getD, List.getElem?_set]
    by_cases hid : c.attrId = attrId
    · have hsets : c.Sets attrId := ⟨htype, hid, hop⟩
      rw [if_pos hsets, if_pos (by rw [hid]), if_pos]
      · rfl
      · rw [Vector.length_toList]
        omega
    · have hne : ¬ c.attrId.toNat - 1 = attrId.toNat - 1 := by
        intro e
        exact hid (UInt32.toNat_inj.mp (by omega))
      rw [if_neg hne, if_neg fun h => hid h.2.1, ← List.getD_eq_getElem?_getD]
  · rename_i hc
    rw [if_neg]
    intro hsets
    obtain ⟨htype, hid, hop⟩ := hsets
    exact hc ⟨htype, by rw [hid]; exact ⟨h1, h16⟩, hop⟩

theorem numAttr_foldl_takeCond (room : GuiRoom) (h1 : 1 ≤ attrId.toNat) (h16 : attrId.toNat ≤ 16) :
    (conds.foldl takeCond room).numAttr attrId = wantedFrom attrId conds (room.numAttr attrId) := by
  induction conds generalizing room with
  | nil => rfl
  | cons c conds ih =>
    rw [List.foldl_cons, ih, numAttr_takeCond room c h1 h16]
    rfl

theorem numAttr_created (comId : ComId) (h1 : 1 ≤ attrId.toNat) (h16 : attrId.toNat ≤ 16) :
    (fromQuickmatchProtobuf q comId).numAttr attrId = wanted q.conds attrId := by
  rw [fromQuickmatchProtobuf, numAttr_foldl_takeCond q.conds _ h1 h16]
  congr 1
  rw [numAttr, Vector.toList_replicate, List.getD_eq_getElem?_getD, List.getElem?_replicate,
    if_pos (by omega)]
  rfl

theorem created_rest (comId : ComId) :
    (fromQuickmatchProtobuf q comId).totalSlots = min q.availableNum 64 ∧
      (fromQuickmatchProtobuf q comId).stealth = false ∧
      (fromQuickmatchProtobuf q comId).quickmatchRoom = true ∧
      (fromQuickmatchProtobuf q comId).members = ∅ := by
  rw [fromQuickmatchProtobuf, foldl_takeCond_eq]
  exact ⟨rfl, rfl, rfl, rfl⟩

theorem quickCond_created (comId : ComId) (members : HashMap UserId GuiRoomMember)
    (c : MatchingSearchCondition) :
    ({ fromQuickmatchProtobuf q comId with members } : GuiRoom).quickCond c = true ↔
      (c.Searchable → c.compOp = matchingConditionSearchEq →
        c.compValue = wanted q.conds c.attrId) ∧
      (c.Searchable → c.compOp = matchingConditionSearchNe →
        c.compValue ≠ wanted q.conds c.attrId) := by
  unfold quickCond
  by_cases hs : c.Searchable
  · obtain ⟨htype, hne, hle⟩ := hs
    have h1 : 1 ≤ c.attrId.toNat :=
      Nat.one_le_iff_ne_zero.mpr fun e => hne (UInt32.toNat_inj.mp e)
    have h8 : c.attrId.toNat ≤ 8 := hle
    have hnum : ({ fromQuickmatchProtobuf q comId with members } : GuiRoom).numAttr c.attrId =
        wanted q.conds c.attrId := numAttr_created q comId h1 (by omega)
    by_cases hop : c.compOp = matchingConditionSearchEq ∨ c.compOp = matchingConditionSearchNe
    · rw [if_neg (by
        intro h
        rcases h with h | h | h | h
        · exact h htype
        · exact hne h
        · exact absurd h (UInt32.not_lt.mpr hle)
        · exact hop.elim h.1 h.2), hnum]
      rcases hop with hop | hop
      · rw [hop]
        show (wanted q.conds c.attrId == c.compValue) = true ↔ _
        rw [beq_iff_eq]
        exact ⟨fun e => ⟨fun _ _ => e.symm, fun _ h => absurd h (by decide)⟩,
          fun h => (h.1 ⟨htype, hne, hle⟩ rfl).symm⟩
      · rw [hop]
        show (wanted q.conds c.attrId != c.compValue) = true ↔ _
        rw [bne_iff_ne]
        exact ⟨fun e => ⟨fun _ h => absurd h (by decide), fun _ _ => e.symm⟩,
          fun h => (h.2 ⟨htype, hne, hle⟩ rfl).symm⟩
    · obtain ⟨heq, hne'⟩ := not_or.mp hop
      rw [if_pos (Or.inr (Or.inr (Or.inr ⟨heq, hne'⟩)))]
      exact ⟨fun _ => ⟨fun _ h => absurd h heq, fun _ h => absurd h hne'⟩, fun _ => rfl⟩
  · rw [if_pos (by
      by_contra h
      simp only [not_or, not_not] at h
      exact hs ⟨h.1, h.2.1, UInt32.not_lt.mp h.2.2.1⟩)]
    exact ⟨fun _ => ⟨fun h => absurd h hs, fun h => absurd h hs⟩, fun _ => rfl⟩

theorem isQuickmatch_iff :
    room.isQuickmatch q = true ↔ room.quickmatchRoom = true ∧ room.stealth = false ∧
      room.totalSlots = q.availableNum ∧ ∀ c ∈ q.conds, room.quickCond c = true := by
  unfold isQuickmatch
  simp only [Bool.if_false_left, Bool.and_eq_true, Bool.not_eq_true', decide_eq_false_iff_not,
    Bool.or_eq_true, bne_iff_ne, not_or, Bool.not_eq_false, not_not, Bool.not_eq_true,
    List.all_eq_true, and_assoc, ne_eq]

theorem isQuickmatch_created_iff (comId : ComId) (members : HashMap UserId GuiRoomMember) :
    ({ fromQuickmatchProtobuf q comId with members } : GuiRoom).isQuickmatch q = true ↔
      q.Consistent := by
  obtain ⟨htotal, hstealth, hquick, -⟩ := created_rest q comId
  rw [isQuickmatch_iff]
  constructor
  · intro h
    obtain ⟨-, -, hslots, hall⟩ := h
    refine ⟨?_, ?_, ?_⟩
    · by_contra hgt
      have hcut : min q.availableNum 64 = 64 := if_neg hgt
      rw [htotal, hcut] at hslots
      exact hgt (hslots ▸ UInt32.le_refl 64)
    · exact fun c hc => ((quickCond_created q comId members c).mp (hall c hc)).1
    · exact fun c hc => ((quickCond_created q comId members c).mp (hall c hc)).2
  · intro h
    refine ⟨hquick, hstealth, ?_, fun c hc => (quickCond_created q comId members c).mpr ?_⟩
    · rw [htotal]
      exact if_pos h.places
    · exact ⟨h.equations c hc, h.inequalities c hc⟩

theorem created_not_full {q : QuickMatchGuiRequest} (hq : 2 ≤ q.availableNum) (comId : ComId)
    (cinfo : ClientInfo) :
    ((fromQuickmatchProtobuf q comId).addMember cinfo true).members.len ≠
      ((fromQuickmatchProtobuf q comId).addMember cinfo true).totalSlots.toNat := by
  obtain ⟨htotal, -, -, hmem⟩ := created_rest q comId
  have hlen : ((fromQuickmatchProtobuf q comId).addMember cinfo true).members.len = 1 := by
    rw [addMember, hmem, HashMap.len_insert_new _ (HashMap.get?_empty _)]
    rfl
  have hslots : 2 ≤ (fromQuickmatchProtobuf q comId).totalSlots.toNat := by
    rw [htotal]
    show 2 ≤ (if q.availableNum ≤ 64 then q.availableNum else 64).toNat
    split
    · exact hq
    · decide
  rw [hlen]
  exact (Nat.lt_of_lt_of_le (by decide) hslots).ne

end GuiRoom

/-! ## 2. The search -/

variable {comId : ComId} {cinfo : ClientInfo} {m : GuiRoomManager} {p : GuiRoom → Bool}
  {order : List GuiRoomId} {roomId : GuiRoomId}

namespace GuiRoomManager

theorem findRoom_none_iff :
    m.findRoom p order = .ok none ↔
      ∀ i ∈ order, ∃ room, m.rooms.get? i = some room ∧ p room = false := by
  induction order with
  | nil => exact ⟨fun _ i hi => absurd hi List.not_mem_nil, fun _ => rfl⟩
  | cons i rest ih =>
    rw [findRoom, List.forall_mem_cons, ← ih]
    cases hi : m.rooms.get? i with
    | none => exact ⟨fun h => (by cases h), fun h => (by cases h.1.choose_spec.1)⟩
    | some room =>
      simp only
      by_cases hp : p room = true
      · rw [if_pos hp]
        refine ⟨fun h => (by cases h), fun h => ?_⟩
        obtain ⟨⟨room', hr', hp'⟩, -⟩ := h
        cases hr'
        exact absurd hp (Bool.not_eq_true _ ▸ hp')
      · rw [if_neg hp]
        exact ⟨fun h => ⟨⟨room, rfl, Bool.not_eq_true _ ▸ hp⟩, h⟩, fun h => h.2⟩

theorem findRoom_unique {room : GuiRoom} (hr : m.rooms.get? roomId = some room)
    (hp : p room = true) (hin : roomId ∈ order)
    (hrest : ∀ i ∈ order, i ≠ roomId → ∃ other, m.rooms.get? i = some other ∧ p other = false) :
    m.findRoom p order = .ok (some roomId) := by
  induction order with
  | nil => exact absurd hin List.not_mem_nil
  | cons i rest ih =>
    rw [findRoom]
    by_cases hi : i = roomId
    · rw [hi, hr]
      simp only [hp, if_true]
    · obtain ⟨other, ho, hpo⟩ := hrest i List.mem_cons_self hi
      rw [ho]
      simp only [hpo, Bool.false_eq_true, if_false]
      refine ih ?_ fun j hj => hrest j (List.mem_cons_of_mem _ hj)
      exact (List.mem_cons.mp hin).resolve_left (Ne.symm hi)

theorem searchRooms_eq (h : roomId ∈ m.comidRooms.setAt comId) (p : GuiRoom → Bool)
    (order : List GuiRoomId) : m.searchRooms comId p order = m.findRoom p order := by
  obtain ⟨s, hs, -⟩ := HashMap.exists_of_mem_setAt h
  rw [searchRooms, hs]

theorem searchRooms_none (ho : Orders order (m.comidRooms.setAt comId))
    (h : m.searchRooms comId p order = .ok none) {i : GuiRoomId}
    (hi : i ∈ m.comidRooms.setAt comId) : ∃ room, m.rooms.get? i = some room ∧ p room = false := by
  rw [searchRooms_eq hi] at h
  rw [← ho.2, List.mem_toFinset] at hi
  exact findRoom_none_iff.mp h i hi

/-! ## 3. Two quick matches -/

theorem completeQuickmatch_waits {room : GuiRoom} (hr : m.rooms.get? roomId = some room)
    (hlen : room.members.len ≠ room.totalSlots.toNat) (cinfo : ClientInfo) :
    completeQuickmatch roomId cinfo m = (.ok none, m) := by
  unfold completeQuickmatch
  simp only [bind_run, read_run, hr, unwrap_some, if_neg hlen, pure_run]

theorem quickmatchGui_waits {q : QuickMatchGuiRequest} (hq : 2 ≤ q.availableNum)
    (hf : m.searchRooms comId (·.isQuickmatch q) order = .ok none)
    (hid : roomIdOf comId m.curRoomId = some roomId)
    (hfree : roomId ∉ m.userRooms.setAt cinfo.userId) :
    quickmatchGui comId q cinfo order m = (.ok (⟨roomId.toList⟩, none),
      m.opened comId roomId ((GuiRoom.fromQuickmatchProtobuf q comId).addMember cinfo true)
        cinfo.userId) := by
  have hopen := openRoom_some hid (GuiRoom.fromQuickmatchProtobuf q comId) cinfo
  rw [entryOutcome, if_neg hfree] at hopen
  unfold quickmatchGui
  rw [bind_ok (read_run m), hf, bind_ok (ofPanic_ok none m)]
  unfold enterQuickmatch
  rw [bind_ok hopen, bind_ok (completeQuickmatch_waits (get?_opened ..)
    (GuiRoom.created_not_full hq comId cinfo) cinfo)]
  rfl

theorem quickmatchGui_joins {room : GuiRoom} {q : QuickMatchGuiRequest}
    (hf : m.searchRooms comId (·.isQuickmatch q) order = .ok (some roomId))
    (hr : m.rooms.get? roomId = some room) (hfree : roomId ∉ m.userRooms.setAt cinfo.userId) :
    ∃ n m', quickmatchGui comId q cinfo order m = (.ok (⟨roomId.toList⟩, n), m') ∧
      m'.MemberOf cinfo.userId roomId := by
  have hin := enterQuickmatch_some hr comId q cinfo
  rw [entryOutcome, if_neg hfree] at hin
  obtain ⟨n, stealth, hrun⟩ :=
    completeQuickmatch_run (get?_entered m roomId (room.addMember cinfo false) cinfo.userId) cinfo
  rw [entered_putRoom] at hrun
  refine ⟨n, _, ?_, _, get?_entered m roomId { room.addMember cinfo false with stealth }
    cinfo.userId, ?_⟩
  · unfold quickmatchGui
    rw [bind_ok (read_run m), hf, bind_ok (ofPanic_ok (some roomId) m),
      bind_ok hin, bind_ok hrun]
    rfl
  · show cinfo.userId ∈ (room.members.insert cinfo.userId _).keys
    rw [HashMap.keys_insert]
    exact Finset.mem_insert_self _ _

theorem roomIdOf_isSome {n : UInt64} (h : roomIdOf comId n = some roomId) (k : UInt64) :
    ∃ other, roomIdOf comId k = some other := by
  unfold roomIdOf roomIdBytes at h ⊢
  simp only [List.length_append, length_hexDigits] at h ⊢
  split at h
  · rename_i hlen
    rw [dif_pos hlen]
    exact ⟨_, rfl⟩
  · cases h

theorem searchRooms_opened {order' : List GuiRoomId}
    (ho : Orders order (m.comidRooms.setAt comId)) (hf : m.searchRooms comId p order = .ok none)
    (room : GuiRoom) (userId : UserId)
    (ho' : Orders order' ((m.opened comId roomId room userId).comidRooms.setAt comId)) :
    (m.opened comId roomId room userId).searchRooms comId p order' =
      .ok (if p room then some roomId else none) := by
  have hin : roomId ∈ (m.opened comId roomId room userId).comidRooms.setAt comId :=
    mem_addTo_self m.comidRooms comId roomId
  have hothers : ∀ i ∈ order', i ≠ roomId →
      ∃ other, (m.opened comId roomId room userId).rooms.get? i = some other ∧
        p other = false := by
    intro i hi hne
    rw [← List.mem_toFinset, ho'.2] at hi
    have hold : i ∈ m.comidRooms.setAt comId := (mem_addTo hi).resolve_left fun e => hne e.1
    obtain ⟨other, hr, hp⟩ := searchRooms_none ho hf hold
    refine ⟨other, ?_, hp⟩
    rw [opened, HashMap.get?_insert, if_neg hne, hr]
  rw [searchRooms_eq hin]
  by_cases hp : p room = true
  · rw [if_pos hp]
    exact findRoom_unique (get?_opened ..) hp (by rwa [← List.mem_toFinset, ho'.2]) hothers
  · rw [if_neg hp, findRoom_none_iff]
    intro i hi
    by_cases hne : i = roomId
    · rw [hne]
      exact ⟨room, get?_opened .., Bool.eq_false_of_not_eq_true hp⟩
    · exact hothers i hi hne

theorem generated_quickmatch {q : QuickMatchGuiRequest}
    (h : (GuiOp.quickmatchGui comId q cinfo order).generated m = some roomId) :
    m.searchRooms comId (·.isQuickmatch q) order = .ok none ∧
      roomIdOf comId m.curRoomId = some roomId := by
  rw [GuiOp.generated] at h
  split at h
  · rename_i hf
    exact ⟨hf, h⟩
  · cases h

end GuiRoomManager

/-- **Do equal quick matches meet?** A quick match of one user opens a room. Whoever is in it, the
    room matches the request exactly if the request is consistent; and exactly then the same
    request of the next user opens no room. Then that user is a member of the first one; otherwise
    there are two rooms. The state is any, and so is the order in which rooms are met. -/
theorem quickmatch_meets_iff {m m' : GuiRoomManager} {comId : ComId} {q : QuickMatchGuiRequest}
    {a b : ClientInfo} {order : List GuiRoomId} {roomId : GuiRoomId}
    (hq : 2 ≤ q.availableNum) (hab : a.userId ≠ b.userId)
    (ha : m.userRooms.setAt a.userId = ∅) (hb : m.userRooms.setAt b.userId = ∅)
    (hposs : (GuiOp.quickmatchGui comId q a order).Possible m)
    (hgen : (GuiOp.quickmatchGui comId q a order).generated m = some roomId)
    (hm' : ((GuiOp.quickmatchGui comId q a order).call m).2 = m') :
    ∃ room, m'.rooms.get? roomId = some room ∧
      (∀ members, ({ room with members } : GuiRoom).isQuickmatch q = true ↔ q.Consistent) ∧
      ∀ order', (GuiOp.quickmatchGui comId q b order').Possible m' →
        ((GuiOp.quickmatchGui comId q b order').generated m' = none ↔ q.Consistent) ∧
        (q.Consistent →
          ∃ n, ((GuiOp.quickmatchGui comId q b order').call m').1 =
              .ok (.matched (⟨roomId.toList⟩, n)) ∧
            ((GuiOp.quickmatchGui comId q b order').call m').2.MemberOf b.userId roomId) ∧
        (¬ q.Consistent →
          ∃ other, other ≠ roomId ∧
            (GuiOp.quickmatchGui comId q b order').generated m' = some other) := by
  obtain ⟨hf, hid⟩ := GuiRoomManager.generated_quickmatch hgen
  have hcall := GuiRoomManager.quickmatchGui_waits hq hf hid (ha ▸ Finset.notMem_empty _)
  have hopened : m.opened comId roomId
      ((GuiRoom.fromQuickmatchProtobuf q comId).addMember a true) a.userId = m' := by
    rw [← hm', GuiOp.call, Call.mapOk_state, hcall]
  subst hopened
  have hmatch := GuiRoom.isQuickmatch_created_iff q comId
  have howner : ((GuiRoom.fromQuickmatchProtobuf q comId).addMember a true).isQuickmatch q = true ↔
      q.Consistent := hmatch _
  refine ⟨_, GuiRoomManager.get?_opened .., hmatch, fun order' ho' => ?_⟩
  have hsearch := GuiRoomManager.searchRooms_opened hposs hf _ _ ho'
  by_cases hcons : q.Consistent
  · rw [if_pos (howner.mpr hcons)] at hsearch
    obtain ⟨n, m', hrun, hmem⟩ := GuiRoomManager.quickmatchGui_joins hsearch
      (GuiRoomManager.get?_opened ..) (by
        rw [GuiRoomManager.opened, HashMap.setAt_addTo, if_neg hab.symm, hb]
        exact Finset.notMem_empty _)
    refine ⟨iff_of_true ?_ hcons, fun _ => ⟨n, ?_, ?_⟩, fun h => absurd hcons h⟩
    · rw [GuiOp.generated, hsearch]
    · rw [GuiOp.call, Call.mapOk, hrun]
    · rw [GuiOp.call, Call.mapOk_state, hrun]
      exact hmem
  · rw [if_neg fun h => hcons (howner.mp h)] at hsearch
    -- the counter has moved on by one, so the second id is another one
    obtain ⟨other, hother⟩ := GuiRoomManager.roomIdOf_isSome hid (m.curRoomId + 1)
    have hgen' : (GuiOp.quickmatchGui comId q b order').generated (m.opened comId roomId
        ((GuiRoom.fromQuickmatchProtobuf q comId).addMember a true) a.userId) = some other := by
      rw [GuiOp.generated, hsearch]
      exact hother
    refine ⟨iff_of_false ?_ hcons, fun h => absurd h hcons, fun _ => ⟨other, ?_, hgen'⟩⟩
    · rw [hgen']
      exact Option.some_ne_none other
    · intro e
      subst e
      have hcounter : m.curRoomId = m.curRoomId + 1 := roomIdOf_inj hid hother
      exact absurd (congrArg UInt64.toNat hcounter) (by
        rw [UInt64.toNat_add]
        have := m.curRoomId.toNat_lt
        show ¬ m.curRoomId.toNat = (m.curRoomId.toNat + 1) % 2 ^ 64
        omega)

/-! ### Concrete requests -/

def onNumber (attrId compOp compValue : UInt32) : MatchingSearchCondition :=
  ⟨matchingAttrTypeGameNum, attrId, compOp, compValue⟩

def levelFive : QuickMatchGuiRequest :=
  ⟨[onNumber 1 matchingConditionSearchEq 5, onNumber 2 matchingConditionSearchNe 7], 2⟩

def quickmatchFor (q : QuickMatchGuiRequest) (userId : UserId) (order : List GuiRoomId) : GuiOp :=
  .quickmatchGui letterComId q (guest userId) order

theorem quickmatch_meets_iff_levelFive :
    ∃ n, ((quickmatchFor levelFive 2 [firstRoomId]).call
      ((quickmatchFor levelFive 1 []).call GuiRoomManager.new).2).1 =
        .ok (.matched (⟨firstRoomId.toList⟩, n)) := by
  have hcons : levelFive.Consistent := ⟨by decide, by decide, by decide⟩
  have hgen : (quickmatchFor levelFive 1 []).generated GuiRoomManager.new = some firstRoomId := rfl
  have hnext : (quickmatchFor levelFive 2 [firstRoomId]).Possible
      ((quickmatchFor levelFive 1 []).call GuiRoomManager.new).2 :=
    ⟨List.nodup_singleton _, by decide⟩
  obtain ⟨_, -, -, hmeet⟩ := quickmatch_meets_iff (a := guest 1) (b := guest 2) (by decide)
    (by decide) (HashMap.setAt_empty _) (HashMap.setAt_empty _) ⟨List.nodup_nil, rfl⟩ hgen rfl
  obtain ⟨n, hok, -⟩ := (hmeet [firstRoomId] hnext).2.1 hcons
  exact ⟨n, hok⟩

def sixtyFive : QuickMatchGuiRequest := ⟨[], 65⟩

def notZero : QuickMatchGuiRequest := ⟨[onNumber 1 matchingConditionSearchNe 0], 2⟩

def fiveAndSix : QuickMatchGuiRequest :=
  ⟨[onNumber 1 matchingConditionSearchEq 5, onNumber 1 matchingConditionSearchEq 6], 2⟩

def Misses (q : QuickMatchGuiRequest) : Prop :=
  2 ≤ q.availableNum ∧
    ∃ es m, guiSystem.Run es m ∧ generatedIds es = [firstRoomId] ∧
      m.userRooms.setAt 2 = ∅ ∧ (quickmatchFor q 2 [firstRoomId]).Possible m ∧
      (quickmatchFor q 2 [firstRoomId]).generated m =
        some ⟨(roomIdBytes letterComId 2).toArray, by decide⟩

theorem run_quickmatchFor :
    guiSystem.Run [(quickmatchFor q 1 [], (guiSystem.step .new (quickmatchFor q 1 [])).1)]
      (guiSystem.step .new (quickmatchFor q 1 [])).2 :=
  .step (quickmatchFor q 1 []) .start ⟨List.nodup_nil, rfl⟩

/-- **Equal quick matches that do not meet.** -/
theorem quickmatch_misses : Misses sixtyFive ∧ Misses notZero ∧ Misses fiveAndSix := by
  refine ⟨⟨by decide, _, _, run_quickmatchFor sixtyFive, ?_⟩,
    ⟨by decide, _, _, run_quickmatchFor notZero, ?_⟩,
    ⟨by decide, _, _, run_quickmatchFor fiveAndSix, ?_⟩⟩
  · exact ⟨rfl, by decide, ⟨List.nodup_singleton _, by decide⟩, rfl⟩
  · exact ⟨rfl, by decide, ⟨List.nodup_singleton _, by decide⟩, rfl⟩
  · exact ⟨rfl, by decide, ⟨List.nodup_singleton _, by decide⟩, rfl⟩

end Rpcn
