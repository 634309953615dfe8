/-
  File:      Rpcn/Room/SlotSpec.lean
  Subject:   WHAT THE SLOT FUNCTIONS DO: one inversion for each loop, and `SlotStep`, everything
             `get_a_slot` can do to a room.
-/
import Rpcn.Room.Setters

namespace Rpcn

open Lib Np2Structs Call

variable (joinLabel password roomPassword : Option (Vector UInt8 8)) {r : Room} {slot : Nat}

variable (gs : List RoomGroupConfig)

namespace Room

/-! ## 1. Member ids -/

theorem slotMemberId_toNat (hs : slot ≤ 64) (hc : r.memberIdCounter.toNat < 16) :
    (r.slotMemberId slot).toNat = slot * 16 + r.memberIdCounter.toNat := by
  unfold slotMemberId
  rw [UInt16.toNat_add, UInt16.toNat_shiftLeft]
  have h4 : (4 : UInt16).toNat % 16 = 4 := by decide
  have h1 : slot.toUInt16.toNat = slot := by
    simp only [Nat.toUInt16, UInt16.toNat_ofNat']
    omega
  rw [h4, h1, Nat.shiftLeft_eq]
  omega

theorem slotMemberId_slot (hs : slot ≤ 64) (hc : r.memberIdCounter.toNat < 16) :
    (r.slotMemberId slot >>> 4).toNat = slot := by
  have h4 : (4 : UInt16).toNat % 16 = 4 := by decide
  rw [UInt16.toNat_shiftRight, slotMemberId_toNat hs hc, h4, Nat.shiftRight_eq_div_pow]
  omega

theorem markSlot_counter (r : Room) (slot : Nat) : (r.markSlot slot).memberIdCounter.toNat < 16 := by
  show ((r.memberIdCounter + 1) &&& 0xF).toNat < 16
  rw [UInt16.toNat_and]
  have : (r.memberIdCounter + 1).toNat &&& (0xF : UInt16).toNat ≤ (0xF : UInt16).toNat :=
    Nat.and_le_right
  have h : (0xF : UInt16).toNat = 15 := by decide
  omega

/-! ## 2. The search loops -/

theorem occupySlot_free (h : r.slots[slot - 1]? = some false) :
    occupySlot slot r = (.ok (r.slotMemberId slot), r.markSlot slot) := by
  simp [occupySlot, bind_run, h]

theorem reqSpecificSlots_cases (r : Room) (n i : Nat) :
    (∃ slot, i ≤ slot ∧ slot < i + n ∧ r.slots[slot - 1]? = some false ∧
      reqSpecificSlots i n r = (.ok (r.slotMemberId slot), r.markSlot slot)) ∨
    (∃ p, (p = .slotIndex ∨ p = .reqSpecificSlots) ∧ reqSpecificSlots i n r = (.panic p, r) ∧
      ∀ slot, i ≤ slot → slot < i + n → r.slots[slot - 1]? ≠ some false) := by
  induction n generalizing i with
  | zero => exact Or.inr ⟨_, Or.inr rfl, rfl, fun slot h1 h2 => by omega⟩
  | succ n ih =>
    cases hs : r.slots[i - 1]? with
    | none =>
      refine Or.inr ⟨_, Or.inl rfl, by simp [reqSpecificSlots, bind_run, hs], ?_⟩
      intro slot h1 _ h
      -- past the first index out of range every index is out of range
      rw [List.getElem?_eq_none_iff] at hs
      rw [List.getElem?_eq_none (by omega)] at h
      cases h
    | some taken =>
      cases taken with
      | false =>
        refine Or.inl ⟨i, le_refl i, by omega, hs, ?_⟩
        simp [reqSpecificSlots, bind_run, hs, occupySlot_free hs]
      | true =>
        have e : reqSpecificSlots i (n + 1) r = reqSpecificSlots (i + 1) n r := by
          simp [reqSpecificSlots, bind_run, hs]
        rw [e]
        rcases ih (i + 1) with ⟨slot, h1, h2, h3, h4⟩ | ⟨p, hp, h4, hno⟩
        · exact Or.inl ⟨slot, by omega, by omega, h3, h4⟩
        · refine Or.inr ⟨p, hp, h4, fun slot h1 h2 => ?_⟩
          by_cases e : slot = i
          · rw [e, hs]
            simp
          · exact hno slot (by omega) (by omega)

theorem reqSlotFrom_cases (r : Room) (priv : Bool) (n i : Nat) :
    (∃ slot, i ≤ slot ∧ slot < i + n ∧ r.slots[slot - 1]? = some false ∧
      priv = r.isSlotPrivate slot ∧
      reqSlotFrom priv i n r = (.ok (r.slotMemberId slot), r.markSlot slot)) ∨
    (reqSlotFrom priv i n r = (.err .roomFull, r) ∧ ∀ slot, i ≤ slot → slot < i + n →
      r.slots[slot - 1]? = some false → priv ≠ r.isSlotPrivate slot) ∨
    (reqSlotFrom priv i n r = (.panic .slotIndex, r) ∧
      ∃ slot, i ≤ slot ∧ slot < i + n ∧ r.slots[slot - 1]? = none) := by
  induction n generalizing i with
  | zero => exact Or.inr (Or.inl ⟨rfl, fun slot h1 h2 => by omega⟩)
  | succ n ih =>
    cases hs : r.slots[i - 1]? with
    | none =>
      refine Or.inr (Or.inr ⟨?_, i, le_refl i, by omega, hs⟩)
      simp [reqSlotFrom, bind_run, hs]
    | some taken =>
      by_cases hp : taken = false ∧ priv = r.isSlotPrivate i
      · obtain ⟨rfl, hp⟩ := hp
        refine Or.inl ⟨i, le_refl i, by omega, hs, hp, ?_⟩
        simp [reqSlotFrom, bind_run, hs, ← hp, occupySlot_free hs]
      · have hc : (!taken && priv == r.isSlotPrivate i) = false := by
          rw [Bool.eq_false_iff]
          intro h
          rw [Bool.and_eq_true, Bool.not_eq_true', beq_iff_eq] at h
          exact hp h
        have e : reqSlotFrom priv i (n + 1) r = reqSlotFrom priv (i + 1) n r := by
          simp only [reqSlotFrom, bind_run, read_run, hs, unwrap_some, hc,
            Bool.false_eq_true, if_false]
        rw [e]
        rcases ih (i + 1) with ⟨slot, h1, h2, h3, h4⟩ | ⟨h4, hno⟩ | ⟨h4, slot, h1, h2, h3⟩
        · exact Or.inl ⟨slot, by omega, by omega, h3, h4⟩
        · refine Or.inr (Or.inl ⟨h4, fun slot h1 h2 h3 => ?_⟩)
          by_cases e : slot = i
          · subst e
            rw [hs] at h3
            cases h3
            exact fun h => hp ⟨rfl, h⟩
          · exact hno slot (by omega) (by omega) h3
        · exact Or.inr (Or.inr ⟨h4, slot, by omega, by omega, h3⟩)

/-! ## 3. The group a joiner is sent to -/

def slotsBefore (gs : List RoomGroupConfig) (k : Nat) : Nat :=
  ((gs.take k).map (·.slotNum.toNat)).sum

theorem slotsBefore_succ (g : RoomGroupConfig) (k : Nat) :
    slotsBefore (g :: gs) (k + 1) = g.slotNum.toNat + slotsBefore gs k := by
  simp [slotsBefore]

/-- The hit on the group at index `k` of `gs`, when the pass started at group `i` and slot `c`. -/
def hitAt (gs : List RoomGroupConfig) (i c k : Nat) (g : RoomGroupConfig) : GroupHit :=
  ⟨i + k, c + slotsBefore gs k, g.slotNum.toNat⟩

theorem hitAt_succ (g g' : RoomGroupConfig) (gs : List RoomGroupConfig) (i c k : Nat) :
    hitAt gs (i + 1) (c + g'.slotNum.toNat) k g = hitAt (g' :: gs) i c (k + 1) g := by
  simp only [hitAt, slotsBefore_succ, GroupHit.mk.injEq, and_true]
  omega

def carries (joinLabel : Option (Vector UInt8 8)) (g : RoomGroupConfig) : Bool :=
  g.label = joinLabel

/-- A group the second pass stops at: without a label, and without a password unless the joiner
    brought one. -/
def freeForAll (password : Option (Vector UInt8 8)) (g : RoomGroupConfig) : Bool :=
  g.label = none ∧ ¬ (g.withPassword ∧ password = none)

theorem searchLabel_eq (i c : Nat) :
    searchLabel joinLabel password roomPassword gs i c =
      match gs.findIdx? (carries joinLabel) with
      | none => .ok none
      | some k => match gs[k]? with
        | none => .ok none
        | some g =>
          if g.withPassword ∧ password ≠ roomPassword then .error .roomPasswordMismatch
          else if g.numMembers ≥ g.slotNum then .error .roomGroupFull
          else .ok (some (hitAt gs i c k g)) := by
  induction gs generalizing i c with
  | nil => rfl
  | cons g gs ih =>
    rw [searchLabel, List.findIdx?_cons]
    by_cases hl : g.label = joinLabel
    · have hc : carries joinLabel g = true := by simp [carries, hl]
      rw [if_pos hl, if_pos hc]
      rfl
    · have hc : ¬ carries joinLabel g = true := by simp [carries, hl]
      rw [if_neg hl, if_neg hc, ih]
      cases gs.findIdx? (carries joinLabel) with
      | none => rfl
      | some k =>
        simp only [Option.map_some, List.getElem?_cons_succ]
        cases gs[k]? with
        | none => rfl
        | some g' => simp only [hitAt_succ]

theorem searchLabelless_eq (i c : Nat) :
    searchLabelless password roomPassword gs i c =
      match gs.findIdx? (freeForAll password) with
      | none => .ok none
      | some k => match gs[k]? with
        | none => .ok none
        | some g =>
          if g.withPassword ∧ password ≠ roomPassword then .error .roomPasswordMismatch
          else .ok (some (hitAt gs i c k g)) := by
  induction gs generalizing i c with
  | nil => rfl
  | cons g gs ih =>
    rw [searchLabelless, List.findIdx?_cons]
    by_cases ho : freeForAll password g = true
    · rw [if_pos ho]
      rw [freeForAll, decide_eq_true_eq] at ho
      rw [if_pos ho.1, if_neg ho.2]
      rfl
    · have e : (if g.label = none then
          if g.withPassword ∧ password = none then
            searchLabelless password roomPassword gs (i + 1) (c + g.slotNum.toNat)
          else if g.withPassword ∧ password ≠ roomPassword then .error .roomPasswordMismatch
          else .ok (some ⟨i, c, g.slotNum.toNat⟩)
        else searchLabelless password roomPassword gs (i + 1) (c + g.slotNum.toNat)) =
          searchLabelless password roomPassword gs (i + 1) (c + g.slotNum.toNat) := by
        rw [freeForAll, decide_eq_true_eq, not_and, not_not] at ho
        by_cases hl : g.label = none
        · rw [if_pos hl, if_pos (ho hl)]
        · rw [if_neg hl]
      rw [e, if_neg ho, ih]
      cases gs.findIdx? (freeForAll password) with
      | none => rfl
      | some k =>
        simp only [Option.map_some, List.getElem?_cons_succ]
        cases gs[k]? with
        | none => rfl
        | some g' => simp only [hitAt_succ]

def targetGroup (r : Room) (joinLabel password : Option (Vector UInt8 8)) : Option Nat :=
  (r.groupConfig.findIdx? (carries joinLabel)).or (r.groupConfig.findIdx? (freeForAll password))

/-- **The joiner is let into the group at index `k`**: it is where the label leads, the password
    is right, and a group found by its label has room by its own count. -/
structure Admits (r : Room) (joinLabel password : Option (Vector UInt8 8)) (k : Nat)
    (g : RoomGroupConfig) : Prop where
  label : joinLabel ≠ none
  target : r.targetGroup joinLabel password = some k
  group : r.groupConfig[k]? = some g
  password : g.withPassword = true → password = r.roomPassword
  count : g.label = joinLabel → g.numMembers < g.slotNum

theorem getElem?_of_findIdx? {p : RoomGroupConfig → Bool} {gs : List RoomGroupConfig} {k : Nat}
    (h : gs.findIdx? p = some k) : ∃ g, gs[k]? = some g ∧ p g = true := by
  obtain ⟨hk, hp, _⟩ := List.findIdx?_eq_some_iff_getElem.mp h
  exact ⟨gs[k], List.getElem?_eq_getElem hk, hp⟩

theorem exists_admits_iff {joinLabel password : Option (Vector UInt8 8)} {k : Nat}
    {g : RoomGroupConfig} (hl : joinLabel ≠ none) (ht : r.targetGroup joinLabel password = some k)
    (hg : r.groupConfig[k]? = some g) (hit : GroupHit) :
    (∃ k' g', r.Admits joinLabel password k' g' ∧ hit = hitAt r.groupConfig 0 1 k' g') ↔
      (g.withPassword = true → password = r.roomPassword) ∧
      (g.label = joinLabel → g.numMembers < g.slotNum) ∧ hit = hitAt r.groupConfig 0 1 k g := by
  constructor
  · rintro ⟨k', g', h, e⟩
    obtain rfl : k = k' := by
      have := h.target
      rw [ht] at this
      exact Option.some.inj this
    obtain rfl : g = g' := by
      have := h.group
      rw [hg] at this
      exact Option.some.inj this
    exact ⟨h.password, h.count, e⟩
  · rintro ⟨hp, hc, e⟩
    exact ⟨k, g, ⟨hl, ht, hg, hp, hc⟩, e⟩

theorem chooseGroup_ok_iff {joinLabel password : Option (Vector UInt8 8)} {hit : GroupHit} :
    r.chooseGroup joinLabel password = .ok hit ↔
      ∃ k g, r.Admits joinLabel password k g ∧ hit = hitAt r.groupConfig 0 1 k g := by
  by_cases hl : joinLabel = none
  · constructor
    · intro h
      rw [chooseGroup, if_pos hl] at h
      cases h
    · rintro ⟨k, g, h, _⟩
      exact absurd hl h.label
  rw [chooseGroup, if_neg hl, searchLabel_eq, searchLabelless_eq]
  cases h1 : r.groupConfig.findIdx? (carries joinLabel) with
  | some k =>
    obtain ⟨g, hg, hc⟩ := getElem?_of_findIdx? h1
    have hlab : g.label = joinLabel := by simpa [carries] using hc
    rw [exists_admits_iff hl (by simp [targetGroup, h1]) hg]
    simp only [hg]
    by_cases hp : g.withPassword ∧ password ≠ r.roomPassword
    · rw [if_pos hp]
      exact ⟨fun h => (by cases h), fun h => absurd (h.1 hp.1) hp.2⟩
    rw [if_neg hp]
    by_cases hn : g.numMembers ≥ g.slotNum
    · rw [if_pos hn]
      exact ⟨fun h => (by cases h), fun h => absurd (h.2.1 hlab) (Std.not_lt.mpr hn)⟩
    rw [if_neg hn]
    constructor
    · intro h
      cases h
      exact ⟨fun hw => by_contra fun hne => hp ⟨hw, hne⟩, fun _ => Std.not_le.mp hn, rfl⟩
    · rintro ⟨_, _, rfl⟩
      rfl
  | none =>
    cases h2 : r.groupConfig.findIdx? (freeForAll password) with
    | none =>
      have ht : r.targetGroup joinLabel password = none := by simp [targetGroup, h1, h2]
      constructor
      · intro h
        cases h
      · rintro ⟨k, g, h, _⟩
        have := h.target
        rw [ht] at this
        cases this
    | some k =>
      obtain ⟨g, hg, hc⟩ := getElem?_of_findIdx? h2
      have hlab : g.label = none := by
        rw [freeForAll, decide_eq_true_eq] at hc
        exact hc.1
      rw [exists_admits_iff hl (by simp [targetGroup, h1, h2]) hg]
      simp only [hg]
      by_cases hp : g.withPassword ∧ password ≠ r.roomPassword
      · rw [if_pos hp]
        exact ⟨fun h => (by cases h), fun h => absurd (h.1 hp.1) hp.2⟩
      rw [if_neg hp]
      constructor
      · intro h
        cases h
        exact ⟨fun hw => by_contra fun hne => hp ⟨hw, hne⟩,
          fun e => absurd (e.symm.trans hlab) hl, rfl⟩
      · rintro ⟨_, _, rfl⟩
        rfl

def InGroup (gs : List RoomGroupConfig) (k : Nat) (g : RoomGroupConfig) (slot : Nat) : Prop :=
  1 + slotsBefore gs k ≤ slot ∧ slot < 1 + slotsBefore gs k + g.slotNum.toNat

/-! ## 4. `get_a_slot` -/

def FreeSlot (r : Room) (priv : Bool) (slot : Nat) : Prop :=
  1 ≤ slot ∧ slot ≤ r.maxSlot.toNat ∧ r.slots[slot - 1]? = some false ∧ priv = r.isSlotPrivate slot

/-- What a joiner without a group may take: any free slot with the room's password, a public one
    without a password. -/
def MayTake (r : Room) (password : Option (Vector UInt8 8)) (slot : Nat) : Prop :=
  r.FreeSlot false slot ∨ (password ≠ none ∧ r.FreeSlot true slot)

theorem MayTake.free {password : Option (Vector UInt8 8)} (h : r.MayTake password slot) :
    1 ≤ slot ∧ slot ≤ r.maxSlot.toNat ∧ r.slots[slot - 1]? = some false :=
  h.elim (fun h => ⟨h.1, h.2.1, h.2.2.1⟩) fun h => ⟨h.2.1, h.2.2.1, h.2.2.2.1⟩

/-- **Everything `get_a_slot` can do to a room.** A joiner sent to a group is counted before a
    slot is looked for, so a panic there leaves the count. -/
inductive SlotStep (r : Room) (joinLabel password : Option (Vector UInt8 8)) :
    Outcome ErrorType RoomPanic (UInt8 × UInt16) → Room → Prop where
  | refused (e : ErrorType) : SlotStep r joinLabel password (.err e) r
  | short (hg : r.groupConfig = []) (hs : r.slots.length < r.maxSlot.toNat) :
      SlotStep r joinLabel password (.panic .slotIndex) r
  | stuck (k : Nat) (g : RoomGroupConfig) (p : RoomPanic)
      (hp : p = .slotIndex ∨ p = .reqSpecificSlots) (ha : r.Admits joinLabel password k g)
      (hno : ∀ slot, InGroup r.groupConfig k g slot → r.slots[slot - 1]? ≠ some false) :
      SlotStep r joinLabel password (.panic p) (r.bumpGroup k)
  | group (k : Nat) (g : RoomGroupConfig) (slot : Nat) (ha : r.Admits joinLabel password k g)
      (hin : InGroup r.groupConfig k g slot) (hfree : r.slots[slot - 1]? = some false) :
      SlotStep r joinLabel password (.ok ((k + 1).toUInt8, r.slotMemberId slot))
        ((r.bumpGroup k).markSlot slot)
  | single (slot : Nat) (hg : r.groupConfig = [])
      (hp : password = none ∨ password = r.roomPassword) (hs : r.MayTake password slot) :
      SlotStep r joinLabel password (.ok (0, r.slotMemberId slot)) (r.markSlot slot)

theorem takeGroupSlot_cases (r : Room) (k : Nat) (g : RoomGroupConfig) :
    (∃ slot, InGroup r.groupConfig k g slot ∧ r.slots[slot - 1]? = some false ∧
      takeGroupSlot (hitAt r.groupConfig 0 1 k g) r =
        (.ok ((k + 1).toUInt8, r.slotMemberId slot), (r.bumpGroup k).markSlot slot)) ∨
    (∃ p, (p = .slotIndex ∨ p = .reqSpecificSlots) ∧
      takeGroupSlot (hitAt r.groupConfig 0 1 k g) r = (.panic p, r.bumpGroup k) ∧
      ∀ slot, InGroup r.groupConfig k g slot → r.slots[slot - 1]? ≠ some false) := by
  have e : takeGroupSlot (hitAt r.groupConfig 0 1 k g) r = (do
      let memberId ← reqSpecificSlots (1 + slotsBefore r.groupConfig k) g.slotNum.toNat
      return ((k + 1).toUInt8, memberId)) (r.bumpGroup k) := by
    simp [takeGroupSlot, hitAt, bind_run]
  rw [e]
  rcases reqSpecificSlots_cases (r.bumpGroup k) g.slotNum.toNat
      (1 + slotsBefore r.groupConfig k) with ⟨slot, h1, h2, h3, h4⟩ | ⟨p, hp, h4, hno⟩
  · rw [bind_ok h4]
    exact Or.inl ⟨slot, ⟨h1, h2⟩, h3, rfl⟩
  · rw [bind_panic h4]
    exact Or.inr ⟨p, hp, rfl, fun slot hs => hno slot hs.1 hs.2⟩

theorem reqSlot_cases (r : Room) (priv : Bool) :
    (∃ slot, r.FreeSlot priv slot ∧
      reqSlot priv r = (.ok (r.slotMemberId slot), r.markSlot slot)) ∨
    (reqSlot priv r = (.err .roomFull, r) ∧ ∀ slot, ¬ r.FreeSlot priv slot) ∨
    (reqSlot priv r = (.panic .slotIndex, r) ∧ r.slots.length < r.maxSlot.toNat) := by
  have e : reqSlot priv r = reqSlotFrom priv 1 r.maxSlot.toNat r := by
    simp [reqSlot, bind_run]
  rw [e]
  rcases reqSlotFrom_cases r priv r.maxSlot.toNat 1 with
    ⟨slot, h1, h2, h3, hp, h4⟩ | ⟨h4, hno⟩ | ⟨h4, slot, h1, h2, h3⟩
  · exact Or.inl ⟨slot, ⟨h1, by omega, h3, hp⟩, h4⟩
  · exact Or.inr (Or.inl ⟨h4, fun slot h => hno slot h.1 (by have := h.2.1; omega) h.2.2.1 h.2.2.2⟩)
  · rw [List.getElem?_eq_none_iff] at h3
    exact Or.inr (Or.inr ⟨h4, by omega⟩)

theorem reqAnySlot_cases (r : Room) (password : Option (Vector UInt8 8)) :
    (∃ slot, (password = none ∨ password = r.roomPassword) ∧ r.MayTake password slot ∧
      reqAnySlot password r = (.ok (r.slotMemberId slot), r.markSlot slot)) ∨
    (∃ e, reqAnySlot password r = (.err e, r) ∧
      ((password ≠ none ∧ password ≠ r.roomPassword) ∨ ∀ slot, ¬ r.MayTake password slot)) ∨
    (reqAnySlot password r = (.panic .slotIndex, r) ∧ r.slots.length < r.maxSlot.toNat) := by
  cases password with
  | none =>
    have e : reqAnySlot none r = reqSlot false r := by simp [reqAnySlot, bind_run]
    rw [e]
    rcases reqSlot_cases r false with ⟨slot, hs, h⟩ | ⟨h, hno⟩ | h
    · exact Or.inl ⟨slot, Or.inl rfl, Or.inl hs, h⟩
    · refine Or.inr (Or.inl ⟨_, h, Or.inr fun slot hs => ?_⟩)
      exact hs.elim (hno slot) fun hs => hs.1 rfl
    · exact Or.inr (Or.inr h)
  | some pw =>
    by_cases hp : some pw = r.roomPassword
    · have e : reqAnySlot (some pw) r = orElse (reqSlot true) (reqSlot false) r := by
        simp [reqAnySlot, bind_run, ← hp]
      rw [e, orElse_run]
      rcases reqSlot_cases r true with ⟨slot, hs, h⟩ | ⟨h, hno⟩ | ⟨h, hl⟩
      · rw [h]
        exact Or.inl ⟨slot, Or.inr hp, Or.inr ⟨Option.some_ne_none pw, hs⟩, rfl⟩
      · rw [h]
        -- no private slot is free: the search goes on among the public ones
        rcases reqSlot_cases r false with ⟨slot, hs, h'⟩ | ⟨h', hno'⟩ | h'
        · exact Or.inl ⟨slot, Or.inr hp, Or.inl hs, h'⟩
        · refine Or.inr (Or.inl ⟨_, h', Or.inr fun slot hs => ?_⟩)
          exact hs.elim (hno' slot) fun hs => hno slot hs.2
        · exact Or.inr (Or.inr h')
      · rw [h]
        exact Or.inr (Or.inr ⟨rfl, hl⟩)
    · have e : reqAnySlot (some pw) r = (.err .roomPasswordMismatch, r) := by
        simp [reqAnySlot, bind_run, hp]
      exact Or.inr (Or.inl ⟨_, e, Or.inl ⟨Option.some_ne_none pw, hp⟩⟩)

theorem getASlot_groups (hg : r.groupConfig ≠ []) : getASlot joinLabel password r =
      (ofExcept (r.chooseGroup joinLabel password) >>= takeGroupSlot) r := by
  simp [getASlot, bind_run, hg]

theorem getASlot_single (hg : r.groupConfig = []) : getASlot joinLabel password r =
      (reqAnySlot password >>= fun memberId => return ((0 : UInt8), memberId)) r := by
  simp [getASlot, bind_run, hg]

theorem getASlot_step (r : Room) (joinLabel password : Option (Vector UInt8 8)) :
    SlotStep r joinLabel password (getASlot joinLabel password r).1
      (getASlot joinLabel password r).2 := by
  by_cases hg : r.groupConfig = []
  · rw [getASlot_single joinLabel password hg]
    rcases reqAnySlot_cases r password with ⟨slot, hp, hs, h⟩ | ⟨e, h, _⟩ | ⟨h, hl⟩
    · rw [bind_ok h]
      exact .single slot hg hp hs
    · rw [bind_err h]
      exact .refused e
    · rw [bind_panic h]
      exact .short hg hl
  · rw [getASlot_groups joinLabel password hg]
    cases hc : r.chooseGroup joinLabel password with
    | error e => exact .refused e
    | ok hit =>
      obtain ⟨k, g, ha, rfl⟩ := chooseGroup_ok_iff.mp hc
      rw [bind_ok (ofExcept_ok _ r)]
      rcases takeGroupSlot_cases r k g with ⟨slot, hin, hfree, h⟩ | ⟨p, hp, h, hno⟩
      · rw [h]
        exact .group k g slot ha hin hfree
      · rw [h]
        exact .stuck k g p hp ha hno

end Room

end Rpcn
