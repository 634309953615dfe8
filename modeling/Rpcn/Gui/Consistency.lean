/-
  File:      Rpcn/Gui/Consistency.lean
  Subject:   THE THREE INDEXES OF THE GUI ROOM MANAGER AGREE, over whole runs.
-/
import Rpcn.Gui.Spec
import Rpcn.Lib.Counter

namespace Rpcn

open Lib Np2Structs HashMap GuiRoomManager

variable {m m' : GuiRoomManager} {roomId : GuiRoomId} {room' : GuiRoom} {K A : Type} {op : GuiOp}

namespace GuiRoomManager

/-! ## 1. What is stored is listed -/

theorem listed_new : Listed new where
  filed h := by cases h
  member h := by cases h
  nonempty h := by cases h

theorem Listed.replace (h : Listed m) (hrooms : m'.rooms = m.rooms.insert roomId room')
    (hcom : ∀ c, m.comidRooms.setAt c ⊆ m'.comidRooms.setAt c)
    (hfiled : roomId ∈ m'.comidRooms.setAt room'.communicationId)
    (hne : room'.members.keys.Nonempty)
    (hself : ∀ u ∈ room'.members.keys, roomId ∈ m'.userRooms.setAt u)
    (hother : ∀ u i, i ≠ roomId → i ∈ m.userRooms.setAt u → i ∈ m'.userRooms.setAt u) :
    Listed m' := by
  have back : ∀ {i r}, m'.rooms.get? i = some r →
      (i = roomId ∧ r = room') ∨ (i ≠ roomId ∧ m.rooms.get? i = some r) := by
    intro i r hget
    rw [hrooms, get?_insert] at hget
    by_cases e : i = roomId
    · rw [if_pos e] at hget
      exact Or.inl ⟨e, (Option.some.inj hget).symm⟩
    · rw [if_neg e] at hget
      exact Or.inr ⟨e, hget⟩
  constructor
  · intro i r hget
    rcases back hget with ⟨rfl, rfl⟩ | ⟨_, hget⟩
    · exact hfiled
    · exact hcom _ (h.filed hget)
  · intro i r u hget hu
    rcases back hget with ⟨rfl, rfl⟩ | ⟨hi, hget⟩
    · exact hself u hu
    · exact hother u i hi (h.member hget hu)
  · intro i r hget
    rcases back hget with ⟨rfl, rfl⟩ | ⟨_, hget⟩
    · exact hne
    · exact h.nonempty hget

theorem subset_addTo [DecidableEq K] [DecidableEq A] (ix : HashMap K (Finset A)) (k : K) (a : A)
    (k' : K) : ix.setAt k' ⊆ (ix.addTo k a).setAt k' := by
  rw [setAt_addTo]
  by_cases e : k' = k
  · rw [if_pos e, e]
    exact Finset.subset_insert _ _
  · rw [if_neg e]

theorem mem_addTo_self [DecidableEq K] [DecidableEq A] (ix : HashMap K (Finset A)) (k : K) (a : A) :
    a ∈ (ix.addTo k a).setAt k := by
  rw [setAt_addTo, if_pos rfl]
  exact Finset.mem_insert_self _ _

theorem Listed.change {gen : Option GuiRoomId} (h : Listed m) (hc : GuiChange m op gen m') :
    Listed m' := by
  cases hc with
  | quiet => exact h
  | opened _ comId cinfo roomId room hid hcom hmem _ =>
    refine h.replace rfl (subset_addTo _ comId roomId) ?_ ?_ ?_ fun u i _ hi =>
      subset_addTo _ cinfo.userId roomId u hi
    · rw [hcom]
      exact mem_addTo_self _ _ _
    · rw [hmem, keys_insert]
      exact Finset.insert_nonempty _ _
    · intro u hu
      rw [hmem, keys_insert, Finset.mem_insert] at hu
      rcases hu with rfl | hu
      · exact mem_addTo_self _ _ _
      · cases hu
  | admitted _ cinfo roomId room room' hr _ _ hsame hmem =>
    refine h.replace rfl (fun c => Finset.Subset.refl _) ?_ ?_ ?_ fun u i _ hi =>
      subset_addTo _ cinfo.userId roomId u hi
    · rw [hsame.communicationId]
      exact h.filed hr
    · rw [hmem, keys_insert]
      exact Finset.insert_nonempty _ _
    · intro u hu
      rw [hmem, keys_insert, Finset.mem_insert] at hu
      rcases hu with rfl | hu
      · exact mem_addTo_self _ _ _
      · exact subset_addTo _ _ _ _ (h.member hr hu)
  | departed roomId cinfo _ _ room room' memberLeft hr hm hsame hmem hlen =>
    refine h.replace rfl (fun c => Finset.Subset.refl _) ?_ ?_ ?_ fun u i hne hi => ?_
    · rw [hsame.communicationId]
      exact h.filed hr
    · rw [hmem.keys, ← keys_remove]
      exact Finset.card_ne_zero.mp hlen
    · intro u hu
      rw [hmem.keys, Finset.mem_erase] at hu
      rw [setAt_departed, if_neg hu.1]
      exact h.member hr hu.2
    · rw [setAt_departed]
      split
      · rename_i e
        subst e
        exact Finset.mem_erase.mpr ⟨hne, hi⟩
      · exact hi
  | ended roomId cinfo _ _ room _ hr _ hrooms hcom husers =>
    have back : ∀ {i r}, m'.rooms.get? i = some r → i ≠ roomId ∧ m.rooms.get? i = some r := by
      intro i r hget
      rw [hrooms, get?_remove] at hget
      split at hget
      · cases hget
      · rename_i e
        exact ⟨e, hget⟩
    constructor
    · intro i r hget
      obtain ⟨hne, hget⟩ := back hget
      rw [hcom, setAt_dropFrom]
      split
      · rename_i e
        rw [← e]
        exact Finset.mem_erase.mpr ⟨hne, h.filed hget⟩
      · exact h.filed hget
    · intro i r u hget hu
      obtain ⟨hne, hget⟩ := back hget
      rw [husers]
      split
      · exact Finset.mem_erase.mpr ⟨hne, h.member hget hu⟩
      · exact h.member hget hu
    · exact fun hget => h.nonempty (back hget).2
  | touched _ roomId room room' hr hcrew _ =>
    refine h.replace rfl (fun c => Finset.Subset.refl _) ?_ ?_ ?_ fun u i _ hi => hi
    · rw [hcrew.communicationId]
      exact h.filed hr
    · rw [hcrew.members]
      exact h.nonempty hr
    · intro u hu
      rw [hcrew.members] at hu
      exact h.member hr hu

end GuiRoomManager

variable {es : List (GuiOp × GuiOutcome × Option GuiRoomId)}

theorem listed_of_run (h : guiSystem.Run es m) : m.Listed :=
  h.invariant listed_new fun _ op hI hp =>
    hI.change (call_change hI op hp)

/-! ## 2. Room ids -/

theorem length_hexDigits (w n : Nat) : (hexDigits w n).length = w := by
  induction w generalizing n with
  | zero => rfl
  | succ w ih => rw [hexDigits, List.length_append, ih, List.length_singleton]

theorem hexDigit_inj : ∀ a < 16, ∀ b < 16, hexDigit a = hexDigit b → a = b := by decide

theorem hexDigits_inj {w n n' : Nat} (h : hexDigits w n = hexDigits w n') (hn : n < 16 ^ w)
    (hn' : n' < 16 ^ w) : n = n' := by
  induction w generalizing n n' with
  | zero =>
    rw [Nat.pow_zero] at hn hn'
    omega
  | succ w ih =>
    obtain ⟨h1, h2⟩ := List.append_inj' h rfl
    have hlow : n % 16 = n' % 16 :=
      hexDigit_inj _ (Nat.mod_lt _ (by decide)) _ (Nat.mod_lt _ (by decide))
        (List.cons.inj h2).1
    rw [Nat.pow_succ] at hn hn'
    have hhigh : n / 16 = n' / 16 := ih h1 (by omega) (by omega)
    omega

theorem roomIdOf_inj {c c' : ComId} {n n' : UInt64} (h : roomIdOf c n = some roomId)
    (h' : roomIdOf c' n' = some roomId) : n = n' := by
  have bytes : ∀ {c : ComId} {n : UInt64}, roomIdOf c n = some roomId →
      roomId.toList = roomIdBytes c n := by
    intro c n h
    unfold roomIdOf at h
    split at h
    · cases h
      rfl
    · cases h
  have e : roomIdBytes c n = roomIdBytes c' n' := (bytes h).symm.trans (bytes h')
  obtain ⟨_, h2⟩ := List.append_inj' e (by rw [length_hexDigits, length_hexDigits])
  have hlt : ∀ n : UInt64, n.toNat < 16 ^ 16 := fun n => n.toNat_lt
  exact UInt64.toNat_inj.mp (hexDigits_inj h2 (hlt n) (hlt n'))

/-! ## 3. The ledger of generated ids -/

def generatedIds (es : List (GuiOp × GuiOutcome × Option GuiRoomId)) : List GuiRoomId :=
  es.filterMap (·.2.2)

variable {gen : List GuiRoomId} {new : Option GuiRoomId} {i : GuiRoomId} {room : GuiRoom}

namespace GuiRoomManager

/-- **The ledger**: the ids generated so far are numbered 1, 2, 3, .. modulo 2^64, and the stored
    rooms have been given theirs from it. -/
structure GuiLedger (gen : List GuiRoomId) (m : GuiRoomManager) : Prop where
  cur : m.curRoomId = UInt64.ofNat (gen.length + 1)
  numbered : ∀ i ∈ gen, ∃ c j, 1 ≤ j ∧ j ≤ gen.length ∧ roomIdOf c (UInt64.ofNat j) = some i
  stored : ∀ {i : GuiRoomId} {room : GuiRoom}, m.rooms.get? i = some room → i ∈ gen

theorem ofNat_succ (n : Nat) : UInt64.ofNat n + 1 = UInt64.ofNat (n + 1) := by
  rw [UInt64.ofNat_add]
  rfl

theorem GuiLedger.fresh (h : GuiLedger gen m) {comId : ComId}
    (hid : roomIdOf comId m.curRoomId = some roomId) (hfew : gen.length < 2 ^ 64) :
    roomId ∉ gen := by
  intro hmem
  obtain ⟨c, j, h1, h2, hj⟩ := h.numbered roomId hmem
  rw [h.cur] at hid
  exact ofNat_ne_of_lt (a := j) (b := gen.length + 1) (by omega) (by omega) (roomIdOf_inj hj hid)

theorem GuiLedger.new_of_change (h : GuiLedger gen m) (hc : GuiChange m op new m')
    (hfew : (gen ++ new.toList).length ≤ 2 ^ 64) : ∀ i ∈ new, i ∉ gen := by
  intro i hi
  obtain rfl := Option.mem_def.mp hi
  cases hc with
  | opened _ comId cinfo _ room hid _ _ _ =>
    refine h.fresh hid ?_
    rw [List.length_append, Option.toList_some, List.length_singleton] at hfew
    omega

theorem GuiLedger.same (h : GuiLedger gen m) (hcur : m'.curRoomId = m.curRoomId)
    (hrooms : ∀ i room, m'.rooms.get? i = some room → ∃ room₀, m.rooms.get? i = some room₀) :
    GuiLedger gen m' where
  cur := hcur.trans h.cur
  numbered := h.numbered
  stored hget := by
    obtain ⟨room₀, h₀⟩ := hrooms _ _ hget
    exact h.stored h₀

theorem get?_of_insert {room₀ : GuiRoom} (hr : m.rooms.get? roomId = some room₀) (room' : GuiRoom)
    (i : GuiRoomId) (room : GuiRoom) (h : (m.rooms.insert roomId room').get? i = some room) :
    ∃ r, m.rooms.get? i = some r := by
  rw [get?_insert] at h
  split at h
  · rename_i e
    exact ⟨room₀, e ▸ hr⟩
  · exact ⟨room, h⟩

theorem GuiLedger.change (h : GuiLedger gen m) (hc : GuiChange m op new m') :
    GuiLedger (gen ++ new.toList) m' := by
  cases hc with
  | quiet =>
    rw [Option.toList_none, List.append_nil]
    exact h
  | opened _ comId cinfo roomId room hid _ _ _ =>
    have hlen : (gen ++ (some roomId).toList).length = gen.length + 1 := by simp
    constructor
    · show m.curRoomId + 1 = _
      rw [hlen, h.cur, ofNat_succ]
    · intro i hi
      rw [hlen]
      rcases List.mem_append.mp hi with hi | hi
      · obtain ⟨c, j, h1, h2, hj⟩ := h.numbered i hi
        exact ⟨c, j, h1, by omega, hj⟩
      · obtain rfl : i = roomId := by simpa using hi
        exact ⟨comId, gen.length + 1, by omega, le_refl _, by rw [← h.cur]; exact hid⟩
    · intro i r hget
      have hget : (m.rooms.insert roomId room).get? i = some r := hget
      rw [get?_insert] at hget
      split at hget
      · rename_i e
        rw [e]
        simp
      · exact List.mem_append_left _ (h.stored hget)
  | admitted _ cinfo roomId room room' hr _ _ _ _ =>
    rw [Option.toList_none, List.append_nil]
    exact h.same rfl (get?_of_insert hr room')
  | departed roomId cinfo _ _ room room' memberLeft hr _ _ _ _ =>
    rw [Option.toList_none, List.append_nil]
    exact h.same rfl (get?_of_insert hr room')
  | ended roomId cinfo _ _ room _ hr hcur hrooms _ _ =>
    rw [Option.toList_none, List.append_nil]
    refine h.same hcur fun i r hget => ?_
    rw [hrooms, get?_remove] at hget
    split at hget
    · cases hget
    · exact ⟨r, hget⟩
  | touched _ roomId room room' hr _ _ =>
    rw [Option.toList_none, List.append_nil]
    exact h.same rfl (get?_of_insert hr room')

/-! ## 4. Nothing else is listed -/

/-- **The indexes agree**: nothing is filed but what is stored, and nobody has a room on the list
    but its members. -/
structure Indexed (m : GuiRoomManager) : Prop extends Listed m where
  stored : ∀ {c : ComId} {i : GuiRoomId}, i ∈ m.comidRooms.setAt c →
    ∃ room, m.rooms.get? i = some room ∧ room.communicationId = c
  joined : ∀ {u : UserId} {i : GuiRoomId}, i ∈ m.userRooms.setAt u →
    ∃ room, m.rooms.get? i = some room ∧ u ∈ room.members.keys

theorem indexed_new : Indexed GuiRoomManager.new where
  toListed := listed_new
  stored h := by cases h
  joined h := by cases h

theorem Indexed.replace (h : Indexed m) (hl : Listed m')
    (hrooms : m'.rooms = m.rooms.insert roomId room') (hcom : ∀ c i, i ∈ m'.comidRooms.setAt c →
      (i = roomId ∧ c = room'.communicationId) ∨ (i ≠ roomId ∧ i ∈ m.comidRooms.setAt c))
    (husers : ∀ u i, i ∈ m'.userRooms.setAt u →
      (i = roomId ∧ u ∈ room'.members.keys) ∨ (i ≠ roomId ∧ i ∈ m.userRooms.setAt u)) :
    Indexed m' := by
  have hself : m'.rooms.get? roomId = some room' := by
    rw [hrooms, get?_insert, if_pos rfl]
  have hother : ∀ {i}, i ≠ roomId → m'.rooms.get? i = m.rooms.get? i := by
    intro i hi
    rw [hrooms, get?_insert, if_neg hi]
  refine ⟨hl, fun {c i} hi => ?_, fun {u i} hi => ?_⟩
  · rcases hcom c i hi with ⟨rfl, rfl⟩ | ⟨hne, hi⟩
    · exact ⟨room', hself, rfl⟩
    · rw [hother hne]
      exact h.stored hi
  · rcases husers u i hi with ⟨rfl, hu⟩ | ⟨hne, hi⟩
    · exact ⟨room', hself, hu⟩
    · rw [hother hne]
      exact h.joined hi

theorem Indexed.com_eq (h : Indexed m) {c : ComId} (hi : i ∈ m.comidRooms.setAt c)
    (hr : m.rooms.get? i = some room) : c = room.communicationId := by
  obtain ⟨r, hr', hc⟩ := h.stored hi
  rw [hr] at hr'
  rw [← hc, Option.some.inj hr']

theorem Indexed.mem_keys (h : Indexed m) {u : UserId} (hi : i ∈ m.userRooms.setAt u)
    (hr : m.rooms.get? i = some room) : u ∈ room.members.keys := by
  obtain ⟨r, hr', hu⟩ := h.joined hi
  rw [hr] at hr'
  rw [Option.some.inj hr']
  exact hu

theorem mem_addTo [DecidableEq K] [DecidableEq A] {ix : HashMap K (Finset A)} {k k' : K} {a b : A}
    (h : b ∈ (ix.addTo k a).setAt k') : (b = a ∧ k' = k) ∨ b ∈ ix.setAt k' := by
  rw [setAt_addTo] at h
  split at h
  · rename_i e
    rcases Finset.mem_insert.mp h with rfl | h
    · exact Or.inl ⟨rfl, e⟩
    · rw [e]
      exact Or.inr h
  · exact Or.inr h

theorem Indexed.change (h : Indexed m) (hc : GuiChange m op new m')
    (hfresh : ∀ i ∈ new, m.rooms.get? i = none) : Indexed m' := by
  have hl := h.toListed.change hc
  cases hc with
  | quiet => exact h
  | opened _ comId cinfo roomId room hid hcom hmem _ =>
    have hnone : m.rooms.get? roomId = none := hfresh roomId rfl
    have hkeys : room.members.keys = {cinfo.userId} := by
      rw [hmem, keys_insert]
      rfl
    refine h.replace hl rfl (fun c i hi => ?_) fun u i hi => ?_
    · rcases mem_addTo hi with ⟨rfl, rfl⟩ | hi
      · exact Or.inl ⟨rfl, hcom.symm⟩
      · refine Or.inr ⟨fun e => ?_, hi⟩
        obtain ⟨r, hr, _⟩ := h.stored hi
        rw [e, hnone] at hr
        cases hr
    · rcases mem_addTo hi with ⟨rfl, rfl⟩ | hi
      · exact Or.inl ⟨rfl, by rw [hkeys]; exact Finset.mem_singleton_self _⟩
      · refine Or.inr ⟨fun e => ?_, hi⟩
        obtain ⟨r, hr, _⟩ := h.joined hi
        rw [e, hnone] at hr
        cases hr
  | admitted _ cinfo roomId room room' hr _ _ hsame hmem =>
    refine h.replace hl rfl (fun c i hi => ?_) fun u i hi => ?_
    · by_cases e : i = roomId
      · subst e
        exact Or.inl ⟨rfl, (h.com_eq hi hr).trans hsame.communicationId.symm⟩
      · exact Or.inr ⟨e, hi⟩
    · rw [hmem, keys_insert]
      rcases mem_addTo hi with ⟨rfl, rfl⟩ | hold
      · exact Or.inl ⟨rfl, Finset.mem_insert_self _ _⟩
      · by_cases e : i = roomId
        · subst e
          exact Or.inl ⟨rfl, Finset.mem_insert_of_mem (h.mem_keys hold hr)⟩
        · exact Or.inr ⟨e, hold⟩
  | departed roomId cinfo _ _ room room' memberLeft hr hm hsame hmem _ =>
    refine h.replace hl rfl (fun c i hi => ?_) fun u i hi => ?_
    · by_cases e : i = roomId
      · subst e
        exact Or.inl ⟨rfl, (h.com_eq hi hr).trans hsame.communicationId.symm⟩
      · exact Or.inr ⟨e, hi⟩
    · rw [setAt_departed] at hi
      rw [hmem.keys]
      split at hi
      · rename_i e
        obtain ⟨hne', hi⟩ := Finset.mem_erase.mp hi
        exact Or.inr ⟨hne', e ▸ hi⟩
      · rename_i e
        by_cases e' : i = roomId
        · subst e'
          exact Or.inl ⟨rfl, Finset.mem_erase.mpr ⟨e, h.mem_keys hi hr⟩⟩
        · exact Or.inr ⟨e', hi⟩
  | ended roomId cinfo _ _ room _ hr _ hrooms hcom husers =>
    have hother : ∀ {i}, i ≠ roomId → m'.rooms.get? i = m.rooms.get? i := by
      intro i hi
      rw [hrooms, get?_remove, if_neg hi]
    refine ⟨hl, fun {c i} hi => ?_, fun {u i} hi => ?_⟩
    · rw [hcom, setAt_dropFrom] at hi
      split at hi
      · rename_i e
        obtain ⟨hne, hi⟩ := Finset.mem_erase.mp hi
        rw [hother hne, e]
        exact h.stored hi
      · rename_i e
        -- the room that ended was filed under its own com id only
        have hne : i ≠ roomId := fun e' => e (h.com_eq (e' ▸ hi) hr)
        rw [hother hne]
        exact h.stored hi
    · rw [husers] at hi
      split at hi
      · obtain ⟨hne, hi⟩ := Finset.mem_erase.mp hi
        rw [hother hne]
        exact h.joined hi
      · rename_i hu
        have hne : i ≠ roomId := fun e' => hu (h.mem_keys (e' ▸ hi) hr)
        rw [hother hne]
        exact h.joined hi
  | touched _ roomId room room' hr hcrew _ =>
    refine h.replace hl rfl (fun c i hi => ?_) fun u i hi => ?_
    · by_cases e : i = roomId
      · subst e
        exact Or.inl ⟨rfl, (h.com_eq hi hr).trans hcrew.communicationId.symm⟩
      · exact Or.inr ⟨e, hi⟩
    · rw [hcrew.members]
      by_cases e : i = roomId
      · subst e
        exact Or.inl ⟨rfl, h.mem_keys hi hr⟩
      · exact Or.inr ⟨e, hi⟩

end GuiRoomManager

/-! ## 5. Over whole runs -/

theorem generatedIds_snoc (es : List (GuiOp × GuiOutcome × Option GuiRoomId)) (op : GuiOp)
    (o : GuiOutcome) (new : Option GuiRoomId) :
    generatedIds (es ++ [(op, o, new)]) = generatedIds es ++ new.toList := by
  rw [generatedIds, List.filterMap_append]
  cases new <;> rfl

theorem ledger_of_gui_run (h : guiSystem.Run es m) :
    GuiLedger (generatedIds es) m := by
  refine h.history (I := fun es m => GuiLedger (generatedIds es) m) ?_ ?_
  · exact ⟨rfl, fun i hi => (by cases hi), fun hget => (by cases hget)⟩
  · intro es m op hrun hI hp
    show GuiLedger (generatedIds (es ++ [(op, _, op.generated m)])) (op.call m).2
    rw [generatedIds_snoc]
    exact hI.change (call_change (listed_of_run hrun) op hp)

theorem indexed_of_run (h : guiSystem.Run es m) (hfew : (generatedIds es).length ≤ 2 ^ 64) :
    m.Indexed ∧ (generatedIds es).Nodup := by
  revert hfew
  refine h.history (I := fun es m => (generatedIds es).length ≤ 2 ^ 64 →
    m.Indexed ∧ (generatedIds es).Nodup) ?_ ?_
  · exact fun _ => ⟨indexed_new, List.nodup_nil⟩
  · intro es m op hrun ih hp
    show (generatedIds (es ++ [(op, _, op.generated m)])).length ≤ 2 ^ 64 →
      (op.call m).2.Indexed ∧ (generatedIds (es ++ [(op, _, op.generated m)])).Nodup
    rw [generatedIds_snoc]
    intro hfew
    obtain ⟨hI, hn⟩ := ih (le_trans (by rw [List.length_append]; omega) hfew)
    have hc := call_change hI.toListed op hp
    have hledger := ledger_of_gui_run hrun
    -- what is generated now was not generated before, so nothing is stored under it
    have hnew := hledger.new_of_change hc hfew
    refine ⟨hI.change hc fun i hi => ?_, ?_⟩
    · by_contra hsome
      obtain ⟨room, hr⟩ := Option.ne_none_iff_exists'.mp hsome
      exact hnew i hi (hledger.stored hr)
    · refine List.nodup_append.mpr ⟨hn, ?_, fun i hi j hj e => ?_⟩
      · cases op.generated m with
        | none => exact List.nodup_nil
        | some i => exact List.nodup_singleton i
      · subst e
        exact hnew i (by simpa using hj) hi

/-- **Index consistency.** In every state of every run that generated at most 2^64 ids: a room id is
    filed under a com id exactly when a room of that com id is stored under it; it is on a user's
    list exactly when the user is a member; every stored room has a member; no id was generated
    twice; and no leave panics. -/
theorem guiRoomManager_indexes_consistent
    {es : List (GuiOp × GuiOutcome × Option GuiRoomId)} {m : GuiRoomManager}
    (h : guiSystem.Run es m) (hfew : (generatedIds es).length ≤ 2 ^ 64) :
    (∀ (roomId : GuiRoomId) (c : ComId), roomId ∈ m.comidRooms.setAt c ↔
      ∃ room, m.rooms.get? roomId = some room ∧ room.communicationId = c) ∧
    (∀ (roomId : GuiRoomId) (userId : UserId), roomId ∈ m.userRooms.setAt userId ↔
      ∃ room, m.rooms.get? roomId = some room ∧ userId ∈ room.members.keys) ∧
    (∀ (roomId : GuiRoomId) (room : GuiRoom), m.rooms.get? roomId = some room →
      room.members.keys.Nonempty) ∧
    (generatedIds es).Nodup ∧
    (∀ (roomId : GuiRoomId) (cinfo : ClientInfo) (order : List UserId) (random : Nat),
      (GuiOp.leaveRoomGui roomId cinfo order random).Possible m →
      ∀ p, (GuiRoomManager.leaveRoomGui roomId cinfo order random m).1 ≠ .panic p) := by
  obtain ⟨hI, hn⟩ := indexed_of_run h hfew
  refine ⟨fun roomId c => ⟨hI.stored, ?_⟩, fun roomId userId => ⟨hI.joined, ?_⟩,
    fun roomId room hr => hI.nonempty hr, hn, fun roomId cinfo order random hp =>
      (GuiRoomManager.leaveRoomGui_step hI.toListed roomId cinfo order random hp).1⟩
  · rintro ⟨room, hr, rfl⟩
    exact hI.filed hr
  · rintro ⟨room, hr, hu⟩
    exact hI.member hr hu

/-! ### A room for a few -/

def letterComId : ComId := Vector.replicate 12 0x41

def guest (userId : UserId) : ClientInfo := ⟨userId, "", "", ""⟩

def openGuiRoom (totalSlots : UInt32) : GuiOp :=
  .createRoomGui letterComId ⟨totalSlots, 0, true, false, []⟩ (guest 1)

def firstRoomId : GuiRoomId := ⟨(roomIdBytes letterComId 1).toArray, by decide⟩

def withGuiRoom (totalSlots : UInt32) : GuiRoomManager :=
  ((openGuiRoom totalSlots).call GuiRoomManager.new).2

theorem guiRoomManager_indexes_consistent_opened :
    ∃ es, guiSystem.Run es (withGuiRoom 4) ∧ generatedIds es = [firstRoomId] ∧
      (∀ (roomId : GuiRoomId) (userId : UserId),
        roomId ∈ (withGuiRoom 4).userRooms.setAt userId ↔
          ∃ room, (withGuiRoom 4).rooms.get? roomId = some room ∧ userId ∈ room.members.keys) := by
  have hrun : guiSystem.Run [(openGuiRoom 4, ((openGuiRoom 4).call GuiRoomManager.new).1,
      some firstRoomId)] (withGuiRoom 4) := .step (openGuiRoom 4) .start trivial
  exact ⟨_, hrun, rfl, (guiRoomManager_indexes_consistent hrun (by decide)).2.1⟩

end Rpcn
