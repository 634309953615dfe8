/-
  File:      Rpcn/Room/Groups.lean
  Subject:   GROUP ACCOUNTING: three counts of a group's members that should be one.

  The count a group keeps, the members whose group id designates it, and the marked slots of its
  range agree as long as
  * the groups of a created room really add up to its slots, as numbers and not modulo 2^32, and
    the first has a slot for the creator;
  * nobody is sent to a group beyond the 255th, whose id does not fit its byte;
  * nobody is sent to a label-less group that is full, which the second pass does not test.
-/
import Rpcn.Room.Reachable

namespace Rpcn

open Lib Np2Structs
open Std (ExtTreeMap)

variable {gs gs' : List RoomGroupConfig} {k j slot lo n : Nat} {g g' : RoomGroupConfig}
  {slots : List Bool} {f : RoomGroupConfig → RoomGroupConfig} {r r' room : Room} {m : UInt16}
  {u member : RoomUser} {req : CreateJoinRoomRequest} {cinfo : ClientInfo} {roomId now : UInt64}
  {sig : ClientSharedSignalingInfo} {x : UInt16 × Finset UserId}

namespace Room

/-! ## 1. Ranges -/

theorem slotsBefore_congr (h : gs'.map (·.slotNum) = gs.map (·.slotNum)) (k : Nat) :
    slotsBefore gs' k = slotsBefore gs k := by
  have e : ∀ l : List RoomGroupConfig, (l.take k).map (fun g => g.slotNum.toNat) =
      ((l.map (·.slotNum)).take k).map UInt32.toNat := by
    intro l
    rw [← List.map_take, List.map_map]
    rfl
  rw [slotsBefore, slotsBefore, e, e, h]

theorem slotsBefore_add (hg : gs[k]? = some g) :
    slotsBefore gs (k + 1) = slotsBefore gs k + g.slotNum.toNat := by
  rw [slotsBefore, slotsBefore, List.take_add_one, hg]
  simp

theorem slotsBefore_mono (gs : List RoomGroupConfig) (h : j ≤ k) :
    slotsBefore gs j ≤ slotsBefore gs k := by
  induction k with
  | zero =>
    obtain rfl : j = 0 := by omega
    exact le_refl _
  | succ k ih =>
    rcases Nat.lt_or_ge j (k + 1) with hlt | hge
    · refine le_trans (ih (by omega)) ?_
      cases hg : gs[k]? with
      | none =>
        rw [List.getElem?_eq_none_iff] at hg
        rw [slotsBefore, slotsBefore, List.take_of_length_le hg,
          List.take_of_length_le (by omega)]
      | some g =>
        rw [slotsBefore_add hg]
        exact Nat.le_add_right _ _
    · obtain rfl : j = k + 1 := by omega
      exact le_refl _

theorem InGroup.unique (hj : gs[j]? = some g) (hk : gs[k]? = some g') (h : InGroup gs j g slot)
    (h' : InGroup gs k g' slot) : j = k := by
  have key : ∀ {j k : Nat} {g g' : RoomGroupConfig}, gs[j]? = some g → InGroup gs j g slot →
      InGroup gs k g' slot → ¬ j < k := by
    intro j k g g' hj h h' hlt
    have hm := slotsBefore_mono gs (Nat.succ_le_of_lt hlt)
    rw [Nat.succ_eq_add_one, slotsBefore_add hj] at hm
    have h1 := h.2
    have h2 := h'.1
    omega
  have h1 := key hj h h'
  have h2 := key hk h' h
  omega

theorem exists_inGroup (gs : List RoomGroupConfig) (c : Nat) (slot : Nat) (h1 : c ≤ slot)
    (h2 : slot < c + (gs.map (·.slotNum.toNat)).sum) :
    ∃ k g, gs[k]? = some g ∧ c + slotsBefore gs k ≤ slot ∧
      slot < c + slotsBefore gs k + g.slotNum.toNat := by
  induction gs generalizing c with
  | nil =>
    simp at h2
    omega
  | cons g gs ih =>
    rw [List.map_cons, List.sum_cons] at h2
    rcases Nat.lt_or_ge slot (c + g.slotNum.toNat) with hlt | hge
    · exact ⟨0, g, rfl, by simpa [slotsBefore] using h1, by simpa [slotsBefore] using hlt⟩
    · obtain ⟨k, g', hk, h3, h4⟩ := ih (c + g.slotNum.toNat) hge (by omega)
      refine ⟨k + 1, g', hk, ?_, ?_⟩
      · rw [slotsBefore_succ]
        omega
      · rw [slotsBefore_succ]
        omega

theorem InGroup.le_sum (hk : gs[k]? = some g) (h : InGroup gs k g slot) :
    slot ≤ (gs.map (·.slotNum.toNat)).sum := by
  have hlen := (List.getElem?_eq_some_iff.mp hk).1
  have hm := slotsBefore_mono gs (Nat.succ_le_of_lt hlen)
  rw [Nat.succ_eq_add_one, slotsBefore_add hk] at hm
  have hall : slotsBefore gs gs.length = (gs.map (·.slotNum.toNat)).sum := by
    rw [slotsBefore, List.take_length]
  rw [hall] at hm
  have h2 := h.2
  omega

/-! ## 2. Marked slots of a range -/

/-- The slots from `lo` on, `n` of them, that are marked. -/
def takenIn (slots : List Bool) (lo n : Nat) : Finset Nat :=
  (Finset.Ico lo (lo + n)).filter fun slot => slots[slot - 1]? = some true

theorem mem_takenIn :
    slot ∈ takenIn slots lo n ↔ (lo ≤ slot ∧ slot < lo + n) ∧ slots[slot - 1]? = some true := by
  rw [takenIn, Finset.mem_filter, Finset.mem_Ico]

theorem card_takenIn_le (slots : List Bool) (lo n : Nat) : (takenIn slots lo n).card ≤ n := by
  refine le_trans (Finset.card_filter_le _ _) ?_
  rw [Nat.card_Ico]
  omega

theorem takenIn_mark (hlo : 1 ≤ lo) (hin : lo ≤ slot ∧ slot < lo + n)
    (hfree : slots[slot - 1]? = some false) :
    (takenIn (slots.set (slot - 1) true) lo n).card = (takenIn slots lo n).card + 1 := by
  have hlen := (List.getElem?_eq_some_iff.mp hfree).1
  have hnot : slot ∉ takenIn slots lo n := by
    rw [mem_takenIn, hfree]
    rintro ⟨_, h⟩
    cases h
  rw [← Finset.card_insert_of_notMem hnot]
  congr 1
  ext s
  rw [mem_takenIn, Finset.mem_insert, mem_takenIn]
  by_cases e : s = slot
  · subst e
    rw [List.getElem?_set_self hlen]
    exact ⟨fun _ => Or.inl rfl, fun _ => ⟨hin, rfl⟩⟩
  · constructor
    · rintro ⟨hs, h⟩
      rw [List.getElem?_set_ne (by omega)] at h
      exact Or.inr ⟨hs, h⟩
    · rintro (h | ⟨hs, h⟩)
      · exact absurd h e
      · rw [List.getElem?_set_ne (by omega)]
        exact ⟨hs, h⟩

theorem takenIn_free (hlo : 1 ≤ lo) (hin : lo ≤ slot ∧ slot < lo + n)
    (htaken : slots[slot - 1]? = some true) :
    (takenIn (slots.set (slot - 1) false) lo n).card + 1 = (takenIn slots lo n).card := by
  have hmem : slot ∈ takenIn slots lo n := mem_takenIn.mpr ⟨hin, htaken⟩
  have hlen := (List.getElem?_eq_some_iff.mp htaken).1
  rw [← Finset.card_erase_add_one hmem]
  congr 2
  ext s
  rw [mem_takenIn, Finset.mem_erase, mem_takenIn]
  by_cases e : s = slot
  · subst e
    rw [List.getElem?_set_self hlen]
    exact ⟨fun h => (by cases h.2), fun h => absurd rfl h.1⟩
  · constructor
    · rintro ⟨hs, h⟩
      rw [List.getElem?_set_ne (by omega)] at h
      exact ⟨e, hs, h⟩
    · rintro ⟨_, hs, h⟩
      rw [List.getElem?_set_ne (by omega)]
      exact ⟨hs, h⟩

theorem takenIn_other (hlo : 1 ≤ lo) (hslot : 1 ≤ slot) (hout : ¬ (lo ≤ slot ∧ slot < lo + n))
    (b : Bool) : takenIn (slots.set (slot - 1) b) lo n = takenIn slots lo n := by
  ext s
  rw [mem_takenIn, mem_takenIn]
  by_cases e : s = slot
  · subst e
    exact ⟨fun h => absurd h.1 hout, fun h => absurd h.1 hout⟩
  · constructor
    · rintro ⟨hs, h⟩
      rw [List.getElem?_set_ne (by omega)] at h
      exact ⟨hs, h⟩
    · rintro ⟨hs, h⟩
      rw [List.getElem?_set_ne (by omega)]
      exact ⟨hs, h⟩

theorem card_takenIn_lt (hin : lo ≤ slot ∧ slot < lo + n) (hfree : slots[slot - 1]? = some false) :
    (takenIn slots lo n).card < n := by
  have hsub : takenIn slots lo n ⊂ Finset.Ico lo (lo + n) := by
    refine Finset.filter_ssubset.mpr ⟨slot, Finset.mem_Ico.mpr hin, ?_⟩
    rw [hfree]
    exact fun e => (by cases e)
  have hlt := Finset.card_lt_card hsub
  rw [Nat.card_Ico] at hlt
  omega

theorem exists_free (hlo : 1 ≤ lo) (hlen : lo + n ≤ slots.length + 1)
    (h : (takenIn slots lo n).card < n) :
    ∃ slot, lo ≤ slot ∧ slot < lo + n ∧ slots[slot - 1]? = some false := by
  by_contra hno
  have hall : takenIn slots lo n = Finset.Ico lo (lo + n) := by
    refine Finset.filter_true_of_mem fun slot hs => ?_
    rw [Finset.mem_Ico] at hs
    have hlt : slot - 1 < slots.length := by omega
    have hget := List.getElem?_eq_getElem hlt
    cases hb : slots[slot - 1] with
    | true => rw [hget, hb]
    | false => exact absurd ⟨slot, hs.1, hs.2, by rw [hget, hb]⟩ hno
  rw [hall, Nat.card_Ico] at h
  omega

/-! ## 3. The accounts of a room -/

def occupiedAt (r : Room) (k : Nat) (g : RoomGroupConfig) : Nat :=
  (takenIn r.slots (1 + slotsBefore r.groupConfig k) g.slotNum.toNat).card

structure Accounted (r : Room) : Prop where
  sum : (r.groupConfig.map (·.slotNum.toNat)).sum = r.maxSlot.toNat
  members : ∀ {k : Nat} {g : RoomGroupConfig}, r.groupConfig[k]? = some g →
    g.numMembers.toNat = r.membersAt k
  occupied : ∀ {k : Nat} {g : RoomGroupConfig}, r.groupConfig[k]? = some g →
    g.numMembers.toNat = r.occupiedAt k g
  seated : ∀ {m : UInt16} {u : RoomUser}, r.users[m]? = some u →
    ∃ k g, u.groupId.toNat = k + 1 ∧ r.groupConfig[k]? = some g ∧
      InGroup r.groupConfig k g (slotOf m)

theorem getElem?_modify_cases (h : (gs.modify k f)[j]? = some g') :
    ∃ g, gs[j]? = some g ∧ g' = if j = k then f g else g := by
  rw [List.getElem?_modify] at h
  obtain ⟨g, hg, e⟩ := Option.map_eq_some_iff.mp h
  refine ⟨g, hg, ?_⟩
  rw [← e]
  by_cases hjk : j = k
  · rw [if_pos hjk, if_pos hjk.symm]
  · rw [if_neg hjk, if_neg (Ne.symm hjk)]

theorem getElem?_modify_of_some (f : RoomGroupConfig → RoomGroupConfig) (h : gs[j]? = some g) :
    (gs.modify k f)[j]? = some (if k = j then f g else g) := by
  rw [List.getElem?_modify, h]
  rfl

theorem map_slotNum_modify (hf : ∀ g, (f g).slotNum = g.slotNum) (gs : List RoomGroupConfig)
    (k : Nat) : (gs.modify k f).map (·.slotNum) = gs.map (·.slotNum) := by
  refine List.ext_getElem? fun j => ?_
  rw [List.getElem?_map, List.getElem?_map, List.getElem?_modify]
  cases gs[j]? with
  | none => rfl
  | some g =>
    by_cases e : k = j
    · simp [if_pos e, hf]
    · simp [if_neg e]

theorem sum_slotNum_congr (h : gs'.map (·.slotNum) = gs.map (·.slotNum)) :
    (gs'.map (·.slotNum.toNat)).sum = (gs.map (·.slotNum.toNat)).sum := by
  have e : ∀ l : List RoomGroupConfig,
      l.map (fun g => g.slotNum.toNat) = (l.map (·.slotNum)).map UInt32.toNat := by
    intro l
    rw [List.map_map]
    rfl
  rw [e, e, h]

theorem inGroup_congr (h : gs'.map (·.slotNum) = gs.map (·.slotNum)) (hg : g'.slotNum = g.slotNum) :
    InGroup gs' k g' slot ↔ InGroup gs k g slot := by
  unfold InGroup
  rw [slotsBefore_congr h, hg]

theorem occupiedAt_congr (hs : r'.slots = r.slots)
    (h : r'.groupConfig.map (·.slotNum) = r.groupConfig.map (·.slotNum))
    (hg : g'.slotNum = g.slotNum) : r'.occupiedAt k g' = r.occupiedAt k g := by
  unfold occupiedAt
  rw [hs, slotsBefore_congr h, hg]

theorem Accounted.sameSeats (h : Accounted r) (hs : SameSeats r r') : Accounted r' := by
  have hnum : r'.groupConfig.map (·.slotNum) = r.groupConfig.map (·.slotNum) := by
    have e := congrArg (List.map Prod.fst) hs.groups
    rw [List.map_map, List.map_map] at e
    exact e
  have back : ∀ {k : Nat} {g' : RoomGroupConfig}, r'.groupConfig[k]? = some g' →
      ∃ g, r.groupConfig[k]? = some g ∧ g'.slotNum = g.slotNum ∧ g'.numMembers = g.numMembers := by
    intro k g' hg'
    have e := congrArg (·[k]?) hs.groups
    simp only [List.getElem?_map] at e
    rw [hg', Option.map_some, eq_comm, Option.map_eq_some_iff] at e
    obtain ⟨g, hg, ht⟩ := e
    exact ⟨g, hg, (congrArg Prod.fst ht).symm, (congrArg Prod.snd ht).symm⟩
  refine ⟨?_, fun {k g'} hg' => ?_, fun {k g'} hg' => ?_, fun {m u'} hm => ?_⟩
  · rw [sum_slotNum_congr hnum, hs.maxSlot]
    exact h.sum
  · obtain ⟨g, hg, _, hn⟩ := back hg'
    rw [hn, hs.members]
    exact h.members hg
  · obtain ⟨g, hg, hsl, hn⟩ := back hg'
    rw [hn, occupiedAt_congr hs.slots hnum hsl]
    exact h.occupied hg
  · obtain ⟨u, hu, e⟩ := hs.back hm
    obtain ⟨k, g, hk, hg, hin⟩ := h.seated hu
    have hlen := (List.getElem?_eq_some_iff.mp hg).1
    rw [← hs.groups_length] at hlen
    have hg' := List.getElem?_eq_getElem hlen
    obtain ⟨g₁, hg₁, hsl, _⟩ := back hg'
    rw [hg] at hg₁
    obtain rfl := Option.some.inj hg₁
    exact ⟨k, _, by rw [(seat_eq e).2.2.1]; exact hk, hg', (inGroup_congr hnum hsl).mpr hin⟩

theorem Accounted.le (h : Accounted r) (hg : r.groupConfig[k]? = some g) :
    g.numMembers ≤ g.slotNum := by
  rw [UInt32.le_iff_toNat_le, h.occupied hg]
  exact card_takenIn_le _ _ _

theorem Accounted.partition (h : Accounted r) (slot : Nat) :
    (1 ≤ slot ∧ slot ≤ r.maxSlot.toNat) ↔
      ∃! k, ∃ g, r.groupConfig[k]? = some g ∧ InGroup r.groupConfig k g slot := by
  constructor
  · rintro ⟨h1, h2⟩
    obtain ⟨k, g, hg, hin⟩ := exists_inGroup r.groupConfig 1 slot h1 (by rw [h.sum]; omega)
    refine ⟨k, ⟨g, hg, hin⟩, ?_⟩
    rintro j ⟨g', hg', hin'⟩
    exact hin'.unique hg' hg hin
  · rintro ⟨k, ⟨g, hg, hin⟩, _⟩
    have hle := hin.le_sum hg
    have h1 := hin.1
    rw [h.sum] at hle
    omega

theorem Accounted.pos (h : Accounted r) (hm : r.users[m]? = some u) : u.groupId ≠ 0 ∧
      ∃ g, r.groupConfig[u.groupId.toNat - 1]? = some g ∧ 1 ≤ g.numMembers.toNat := by
  obtain ⟨k, g, hk, hg, _⟩ := h.seated hm
  refine ⟨fun e => ?_, g, ?_, ?_⟩
  · rw [e] at hk
    cases hk
  · rw [hk]
    exact hg
  · rw [h.members hg, membersAt, TreeMap.countP_erase _ hm]
    rw [if_pos (by rw [decide_eq_true_eq]; exact hk)]
    exact Nat.le_add_left 1 _

/-! ### Joining -/

theorem toUInt8_succ (h : k < 255) : (k + 1).toUInt8.toNat = k + 1 := by
  rw [Nat.toUInt8, UInt8.toNat_ofNat']
  omega

theorem toNat_add_one {a b : UInt32} (h : a < b) : (a + 1).toNat = a.toNat + 1 := by
  have h1 : a.toNat < b.toNat := UInt32.lt_iff_toNat_lt.mp h
  have h2 := b.toNat_lt
  rw [UInt32.toNat_add]
  have h3 : (1 : UInt32).toNat = 1 := rfl
  omega

theorem Accounted.join (h : Accounted r) (hd : SlotDiscipline r) (hk : k < 255)
    (hg : r.groupConfig[k]? = some g) (hroom : g.numMembers < g.slotNum)
    (hin : InGroup r.groupConfig k g slot) (hfree : r.slots[slot - 1]? = some false)
    (hnew : r.users[r.slotMemberId slot]? = none) (hu : u.groupId = (k + 1).toUInt8) :
    Accounted (((r.bumpGroup k).markSlot slot).addUser (r.slotMemberId slot) u) := by
  have hnum : (r.bumpGroup k).groupConfig.map (·.slotNum) = r.groupConfig.map (·.slotNum) := by
    refine map_slotNum_modify ?_ r.groupConfig k
    exact fun _ => rfl
  have hgid : u.groupId.toNat = k + 1 := by rw [hu, toUInt8_succ hk]
  have hslot : 1 ≤ slot := le_trans (Nat.le_add_right 1 _) hin.1
  have hcount : ∀ j, (((r.bumpGroup k).markSlot slot).addUser (r.slotMemberId slot) u).membersAt j =
      r.membersAt j + if k = j then 1 else 0 := by
    intro j
    show ((r.users.insert (r.slotMemberId slot) u).toList.countP _) = _
    rw [TreeMap.countP_insert_new _ u hnew]
    simp only [hgid, Nat.add_right_cancel_iff, decide_eq_true_eq]
    rfl
  refine ⟨?_, fun {j g'} hg' => ?_, fun {j g'} hg' => ?_, fun {m v} hm => ?_⟩
  · exact (sum_slotNum_congr hnum).trans h.sum
  · obtain ⟨g₀, hg₀, rfl⟩ := getElem?_modify_cases hg'
    rw [hcount, ← h.members hg₀]
    by_cases e : j = k
    · subst e
      rw [hg] at hg₀
      obtain rfl := Option.some.inj hg₀
      rw [if_pos rfl, if_pos rfl]
      exact toNat_add_one hroom
    · rw [if_neg e, if_neg (Ne.symm e)]
      rfl
  · obtain ⟨g₀, hg₀, rfl⟩ := getElem?_modify_cases hg'
    have hold := h.occupied hg₀
    unfold occupiedAt at hold ⊢
    show _ = (takenIn (r.slots.set (slot - 1) true)
      (1 + slotsBefore (r.bumpGroup k).groupConfig j) _).card
    rw [slotsBefore_congr hnum]
    by_cases e : j = k
    · subst e
      rw [hg] at hg₀
      obtain rfl := Option.some.inj hg₀
      rw [if_pos rfl]
      show (g.numMembers + 1).toNat = (takenIn _ _ g.slotNum.toNat).card
      rw [toNat_add_one hroom, takenIn_mark (by omega) hin hfree, hold]
    · rw [if_neg e, takenIn_other (by omega) hslot fun hj => e (InGroup.unique hg₀ hg hj hin)]
      exact hold
  · rcases addUser_member hm with ⟨rfl, rfl⟩ | ⟨_, hv⟩
    · have hseat : InGroup r.groupConfig k g (slotOf (r.slotMemberId slot)) := by
        rw [slotOf, slotMemberId_slot (hd.free_le hfree) hd.counter_lt]
        exact hin
      refine ⟨k, _, hgid, getElem?_modify_of_some _ hg, (inGroup_congr hnum ?_).mpr hseat⟩
      rw [if_pos rfl]
    · obtain ⟨j, g₀, hj, hg₀, hin₀⟩ := h.seated hv
      refine ⟨j, _, hj, getElem?_modify_of_some _ hg₀, (inGroup_congr hnum ?_).mpr hin₀⟩
      split <;> rfl

/-! ### Leaving -/

theorem leaveGroup_slotNum (g : RoomGroupConfig) : (leaveGroup g).slotNum = g.slotNum := rfl

theorem toNat_sub_one {a : UInt32} (h : 1 ≤ a.toNat) : (a - 1).toNat + 1 = a.toNat := by
  have h1 : (1 : UInt32) ≤ a := UInt32.le_iff_toNat_le.mpr h
  rw [UInt32.toNat_sub_of_le _ _ h1]
  have h3 : (1 : UInt32).toNat = 1 := rfl
  omega

theorem Accounted.dropMember (h : Accounted r) (hd : SlotDiscipline r)
    (hm : r.users[m]? = some member) : Accounted (r.dropMember m member) := by
  obtain ⟨h0, gm, hgm, hpos⟩ := h.pos hm
  obtain ⟨k, g, hk, hg, hin⟩ := h.seated hm
  have hpred : member.groupId.toNat - 1 = k := by omega
  have hgc : (r.dropMember m member).groupConfig = r.groupConfig.modify k leaveGroup := by
    show (if _ then _ else _) = _
    rw [if_neg h0, hpred]
  have hnum : (r.dropMember m member).groupConfig.map (·.slotNum) =
      r.groupConfig.map (·.slotNum) := by
    rw [hgc]
    exact map_slotNum_modify leaveGroup_slotNum r.groupConfig k
  rw [hpred, hg] at hgm
  obtain rfl := Option.some.inj hgm
  have hcount : ∀ j, r.membersAt j = (r.dropMember m member).membersAt j +
      if k = j then 1 else 0 := by
    intro j
    show (r.users.toList.countP _) = _
    rw [TreeMap.countP_erase _ hm]
    simp only [hk, Nat.add_right_cancel_iff, decide_eq_true_eq]
    rfl
  refine ⟨?_, fun {j g'} hg' => ?_, fun {j g'} hg' => ?_, fun {m' v} hm' => ?_⟩
  · rw [sum_slotNum_congr hnum]
    exact h.sum
  · rw [hgc] at hg'
    obtain ⟨g₀, hg₀, rfl⟩ := getElem?_modify_cases hg'
    have hold := h.members hg₀
    rw [hcount] at hold
    by_cases e : j = k
    · subst e
      rw [hg] at hg₀
      obtain rfl := Option.some.inj hg₀
      rw [if_pos rfl] at hold ⊢
      have := toNat_sub_one hpos
      show (g.numMembers - 1).toNat = _
      omega
    · rw [if_neg (Ne.symm e)] at hold
      rw [if_neg e]
      exact hold
  · rw [hgc] at hg'
    obtain ⟨g₀, hg₀, rfl⟩ := getElem?_modify_cases hg'
    have hold := h.occupied hg₀
    unfold occupiedAt at hold ⊢
    show _ = (takenIn (r.slots.set (slotOf m - 1) false)
      (1 + slotsBefore (r.dropMember m member).groupConfig j) _).card
    rw [slotsBefore_congr hnum]
    by_cases e : j = k
    · subst e
      rw [hg] at hg₀
      obtain rfl := Option.some.inj hg₀
      rw [if_pos rfl]
      have h1 := toNat_sub_one hpos
      have h2 := takenIn_free (by omega) hin (hd.slot_taken hm)
      show (g.numMembers - 1).toNat = (takenIn _ _ g.slotNum.toNat).card
      omega
    · rw [if_neg e, takenIn_other (by omega) (hd.slot_pos hm)
        fun hj => e (InGroup.unique hg₀ hg hj hin)]
      exact hold
  · obtain ⟨j, g₀, hj, hg₀, hin₀⟩ := h.seated (dropMember_member hm').2
    refine ⟨j, _, hj, by rw [hgc]; exact getElem?_modify_of_some _ hg₀,
      (inGroup_congr hnum ?_).mpr hin₀⟩
    split <;> rfl

theorem Accounted.makeOwner (h : Accounted r) {s : UInt16} (hs : s ∈ r.users) :
    Accounted (r.makeOwner s) := by
  obtain ⟨v, hv⟩ : ∃ v, r.users[s]? = some v := by
    have := ExtTreeMap.mem_iff_isSome_getElem?.mp hs
    exact Option.isSome_iff_exists.mp this
  refine ⟨h.sum, fun {k g} hg => ?_, h.occupied, fun {m u} hm => ?_⟩
  · rw [h.members hg]
    show _ = (r.users.modify s _).toList.countP _
    rw [TreeMap.modify_eq_insert hv]
    refine (TreeMap.countP_insert_old _ hv ?_).symm
    rfl
  · obtain ⟨u₀, hu₀, rfl⟩ := makeOwner_member hm
    obtain ⟨k, g, hk, hg, hin⟩ := h.seated hu₀
    refine ⟨k, g, ?_, hg, hin⟩
    split
    · exact hk
    · exact hk

theorem ReleaseStep.groups_length {gone : Bool} (hs : ReleaseStep r m member gone r') :
    r'.groupConfig.length = r.groupConfig.length := by
  cases hs with
  | stays => exact dropMember_groups_length r m member
  | handed => exact dropMember_groups_length r m member
  | last => exact dropMember_groups_length r m member

theorem Accounted.released (h : Accounted r) (hd : SlotDiscipline r)
    (hm : r.users[m]? = some member) (hs : ReleaseStep r m member false r') : Accounted r' := by
  have hdrop := h.dropMember hd hm
  cases hs with
  | stays _ => exact hdrop
  | handed s rest _ hs _ =>
    have : Accounted { r.dropMember m member with ownerSuccession := rest } :=
      ⟨hdrop.sum, hdrop.members, hdrop.occupied, hdrop.seated⟩
    exact this.makeOwner hs

/-! ### Founding -/

theorem takenIn_replicate (n lo len : Nat) : takenIn (List.replicate n false) lo len = ∅ := by
  refine Finset.eq_empty_of_forall_notMem fun slot hmem => ?_
  have h := (mem_takenIn.mp hmem).2
  rw [List.getElem?_replicate] at h
  split at h
  · cases h
  · cases h

/-- What a request for groups has to be for the accounts to start in order: the numbers of slots
    add up, and the creator's group has one. -/
def GroupsAddUp (req : CreateJoinRoomRequest) : Prop :=
  (req.groupConfig.map (·.slotNum.toNat)).sum = req.maxSlot.toNat ∧
    ∀ gc, req.groupConfig[0]? = some gc → gc.slotNum ≠ 0

theorem map_mapIdx {α β γ : Type} (f : β → γ) (g : Nat → α → β) (l : List α) :
    (l.mapIdx g).map f = l.mapIdx fun i a => f (g i a) := by
  refine List.ext_getElem? fun i => ?_
  rw [List.getElem?_map, List.getElem?_mapIdx, List.getElem?_mapIdx, Option.map_map]
  rfl

theorem Founded.groups (hf : Founded req cinfo roomId room) (hne : room.groupConfig ≠ []) :
    room.groupConfig.map tally =
      req.groupConfig.mapIdx fun k gc => (gc.slotNum, if k = 0 then 1 else 0) := by
  obtain ⟨u, groupId, _, hgrp⟩ := hf.creator
  rcases hgrp with ⟨_, hnil, _⟩ | ⟨g, gs, label, hmap, _, _, hgc⟩
  · exact absurd hnil hne
  cases hreq : req.groupConfig with
  | nil =>
    rw [hreq] at hmap
    cases hmap
  | cons gc gcs =>
    rw [hreq, List.mapIdx_cons] at hmap
    cases hmap
    rw [hgc, List.mapIdx_cons, List.map_cons, map_mapIdx]
    rfl

theorem Founded.creator_group (hf : Founded req cinfo roomId room) (hne : room.groupConfig ≠ []) :
    (∀ {m : UInt16} {u : RoomUser}, room.users[m]? = some u → u.groupId = 1) ∧
      ∀ k, room.membersAt k = if k = 0 then 1 else 0 := by
  obtain ⟨u, groupId, husers, hgrp⟩ := hf.creator
  rcases hgrp with ⟨_, hnil, _⟩ | ⟨g, gs, label, _, _, rfl, _⟩
  · exact absurd hnil hne
  refine ⟨fun {m v} hm => ?_, fun k => ?_⟩
  · obtain ⟨rfl, _⟩ := hf.member hm
    rw [husers, ExtTreeMap.getElem?_insert_self] at hm
    cases hm
    rfl
  · rw [membersAt, husers, TreeMap.countP_insert_new _ _ ExtTreeMap.getElem?_empty]
    have h0 : (∅ : ExtTreeMap UInt16 RoomUser).toList = [] := rfl
    have h1 : (RoomManager.creator u cinfo 16 1).groupId.toNat = 1 := rfl
    rw [h0, h1, List.countP_nil, Nat.zero_add]
    simp [eq_comm]

theorem Founded.cell (hf : Founded req cinfo roomId room) (hne : room.groupConfig ≠ [])
    (hg : room.groupConfig[k]? = some g) :
    ∃ gc, req.groupConfig[k]? = some gc ∧ g.slotNum = gc.slotNum ∧
      g.numMembers = if k = 0 then 1 else 0 := by
  have e := congrArg (·[k]?) (hf.groups hne)
  simp only [List.getElem?_map, List.getElem?_mapIdx] at e
  rw [hg, Option.map_some, eq_comm, Option.map_eq_some_iff] at e
  obtain ⟨gc, hgc, ht⟩ := e
  exact ⟨gc, hgc, (congrArg Prod.fst ht).symm, (congrArg Prod.snd ht).symm⟩

theorem Founded.sum_slotNum (hf : Founded req cinfo roomId room) (hne : room.groupConfig ≠ []) :
    (room.groupConfig.map (·.slotNum.toNat)).sum =
      (req.groupConfig.map (·.slotNum.toNat)).sum := by
  have e := congrArg (List.map fun t => t.1.toNat) (hf.groups hne)
  rw [List.map_map, map_mapIdx] at e
  refine (congrArg List.sum e).trans (congrArg List.sum ?_)
  refine List.ext_getElem? fun i => ?_
  rw [List.getElem?_mapIdx, List.getElem?_map]

theorem Accounted.founded (hf : Founded req cinfo roomId room) (hne : room.groupConfig ≠ [])
    (hadd : GroupsAddUp req) : Accounted room := by
  obtain ⟨hgid, hcount⟩ := hf.creator_group hne
  obtain ⟨g₁, gs, hgc⟩ := List.exists_cons_of_ne_nil hne
  have hg₁ : room.groupConfig[0]? = some g₁ := by rw [hgc]; rfl
  have hin : InGroup room.groupConfig 0 g₁ 1 := by
    obtain ⟨gc, h0, hs, _⟩ := hf.cell hne hg₁
    have hne0 : g₁.slotNum.toNat ≠ 0 := by
      rw [hs]
      exact fun e => hadd.2 gc h0 (UInt32.toNat_inj.mp e)
    refine ⟨le_refl 1, ?_⟩
    show 1 < 1 + 0 + g₁.slotNum.toNat
    omega
  refine ⟨?_, fun {k g} hg => ?_, fun {k g} hg => ?_, fun {m v} hm => ?_⟩
  · rw [hf.sum_slotNum hne, hadd.1, hf.maxSlot, maxSlot_toNat hf.req_le]
  · obtain ⟨_, _, _, hn⟩ := hf.cell hne hg
    rw [hn, hcount]
    split <;> rfl
  · obtain ⟨_, _, _, hn⟩ := hf.cell hne hg
    have hfree : (List.replicate req.maxSlot.toUInt16.toNat false)[1 - 1]? = some false := by
      refine List.getElem?_replicate_of_lt ?_
      rw [maxSlot_toNat hf.req_le]
      exact Nat.pos_of_ne_zero fun e => hf.req_pos (UInt32.toNat_inj.mp e)
    rw [hn, occupiedAt, hf.slots]
    show _ = (takenIn ((List.replicate _ false).set (1 - 1) true) _ _).card
    by_cases e : k = 0
    · subst e
      rw [hg₁] at hg
      obtain rfl := Option.some.inj hg
      rw [if_pos rfl, takenIn_mark (Nat.le_add_right 1 _) hin hfree, takenIn_replicate]
      rfl
    · rw [if_neg e, takenIn_other (Nat.le_add_right 1 _) (le_refl 1)
        fun hk => e (InGroup.unique hg hg₁ hk hin), takenIn_replicate]
      rfl
  · obtain ⟨rfl, _⟩ := hf.member hm
    exact ⟨0, g₁, by rw [hgid hm]; rfl, hg₁, hin⟩

theorem Founded.accounted_iff (hf : Founded req cinfo roomId room) (hne : room.groupConfig ≠ []) :
    room.Accounted ↔ GroupsAddUp req := by
  refine ⟨fun h => ⟨?_, fun gc hgc e => ?_⟩, Accounted.founded hf hne⟩
  · rw [← hf.sum_slotNum hne, h.sum, hf.maxSlot, maxSlot_toNat hf.req_le]
  · obtain ⟨u, groupId, husers, _⟩ := hf.creator
    have hm : room.users[(16 : UInt16)]? = some (RoomManager.creator u cinfo 16 groupId) := by
      rw [husers, ExtTreeMap.getElem?_insert_self]
    obtain ⟨k, g, hk, hg, hin⟩ := h.seated hm
    rw [(hf.creator_group hne).1 hm] at hk
    obtain rfl : k = 0 := Nat.succ.inj hk.symm
    obtain ⟨gc', hgc', hs, _⟩ := hf.cell hne hg
    rw [hgc] at hgc'
    obtain rfl := Option.some.inj hgc'
    -- slot 1 is in the first range, so the range is not empty
    have h2 : slotOf 16 < 1 + 0 + g.slotNum.toNat := hin.2
    have h1 : slotOf 16 = 1 := by decide
    rw [h1, hs, e] at h2
    exact absurd h2 (by decide)

/-! ## 4. Entering a group -/

/-- **Where a joiner is sent has room for one more**, and its id fits a byte. For a group found by
    its label `get_a_slot` tests the first itself; for a label-less one it does not. -/
def MayEnter (r : Room) (joinLabel password : Option (Vector UInt8 8)) : Prop :=
  ∀ k g, r.Admits joinLabel password k g → k < 255 ∧ g.numMembers < g.slotNum

theorem Admits.groups_ne_nil {joinLabel password : Option (Vector UInt8 8)}
    (h : r.Admits joinLabel password k g) : r.groupConfig ≠ [] := by
  intro hnil
  have := h.group
  rw [hnil] at this
  cases this

theorem Accounted.getASlot_panic_iff (h : Accounted r) (hd : SlotDiscipline r)
    (joinLabel password : Option (Vector UInt8 8)) :
    (∃ p, (getASlot joinLabel password r).1 = .panic p) ↔
      ∃ k g, r.Admits joinLabel password k g ∧ ¬ g.numMembers < g.slotNum := by
  constructor
  · rintro ⟨p, hp⟩
    have hs := getASlot_step r joinLabel password
    rw [hp] at hs
    generalize (getASlot joinLabel password r).2 = r' at hs
    cases hs with
    | short hg hlen =>
      have := hd.slots_length
      omega
    | stuck k g p _ ha hno =>
      refine ⟨k, g, ha, fun hlt => ?_⟩
      rw [UInt32.lt_iff_toNat_lt, h.occupied ha.group] at hlt
      have hlast : 1 + slotsBefore r.groupConfig k + g.slotNum.toNat ≤ r.slots.length + 1 := by
        have hin : InGroup r.groupConfig k g
            (slotsBefore r.groupConfig k + g.slotNum.toNat) := by constructor <;> omega
        have := hin.le_sum ha.group
        rw [h.sum, ← hd.slots_length] at this
        omega
      obtain ⟨slot, h1, h2, h3⟩ := exists_free (Nat.le_add_right 1 _) hlast hlt
      exact hno slot ⟨h1, h2⟩ h3
  · rintro ⟨k, g, ha, hfull⟩
    rw [getASlot_groups joinLabel password ha.groups_ne_nil,
      chooseGroup_ok_iff.mpr ⟨k, g, ha, rfl⟩]
    rcases takeGroupSlot_cases r k g with ⟨slot, hin, hfree, _⟩ | ⟨p, _, hrun, _⟩
    · refine absurd ?_ hfull
      rw [UInt32.lt_iff_toNat_lt, h.occupied ha.group]
      exact card_takenIn_lt hin hfree
    · refine ⟨p, ?_⟩
      rw [Call.bind_ok (Call.ofExcept_ok _ r), hrun]

theorem Accounted.admitted {req : JoinRoomRequest} (h : Accounted r) (hd : SlotDiscipline r)
    (hne : r.groupConfig ≠ [])
    (hmay : r.MayEnter (eightBytes req.joinRoomGroupLabel) (eightBytes req.roomPassword))
    (hs : AdmitStep r req cinfo sig now (.ok x) r') : Accounted r' := by
  cases hs with
  | admitted groupId memberId r₁ u hs hu =>
    have hg := hs.granted hd
    cases hs with
    | group k g slot ha hin hfree =>
      obtain ⟨hk, hroom⟩ := hmay k g ha
      refine h.join hd hk ha.group hroom hin hfree ?_ rfl
      by_contra hsome
      obtain ⟨v, hv⟩ := Option.ne_none_iff_exists'.mp hsome
      exact hg.fresh hd hv rfl
    | single slot hnil _ _ => exact absurd hnil hne

theorem Accounted.mayEnter {req : JoinRoomRequest} (h : Accounted r) (h' : Accounted r')
    (hs : AdmitStep r req cinfo sig now (.ok x) r') :
    r.MayEnter (eightBytes req.joinRoomGroupLabel) (eightBytes req.roomPassword) := by
  intro k' g' ha'
  cases hs with
  | admitted groupId memberId r₁ u hs hu =>
    cases hs with
    | single slot hnil _ _ => exact absurd hnil ha'.groups_ne_nil
    | group k g slot ha hin hfree =>
      obtain rfl : k = k' := Option.some.inj (ha.target.symm.trans ha'.target)
      obtain rfl : g = g' := Option.some.inj (ha.group.symm.trans ha'.group)
      refine ⟨?_, ?_⟩
      · by_contra hk
        have hzero : ∀ r : Room, r.membersAt k = 0 := by
          intro r
          rw [membersAt, List.countP_eq_zero]
          intro p _ hp
          have h1 := p.2.groupId.toNat_lt
          have h2 := of_decide_eq_true hp
          omega
        have hold := h.members ha.group
        have hnew := h'.members (getElem?_modify_of_some _ ha.group)
        rw [hzero] at hold hnew
        rw [if_pos rfl, UInt32.toNat_add, hold] at hnew
        exact absurd hnew (by decide)
      · rw [UInt32.lt_iff_toNat_lt, h.occupied ha.group]
        exact card_takenIn_lt hin hfree

theorem AdmitStep.groups_length {req : JoinRoomRequest} (hd : SlotDiscipline r)
    (hs : AdmitStep r req cinfo sig now (.ok x) r') :
    r'.groupConfig.length = r.groupConfig.length := by
  cases hs with
  | admitted groupId memberId r₁ u hs hu => exact (hs.granted hd).groups_length

end Room

end Rpcn
