/-
  File:      Rpcn/Rematch/RankRange.lean
  Subject:   THE RANK RANGE OF ONE GAME (game_specific_matchmaking.rs) only gets narrower.

  For one com id a search is answered for another request than the one sent: the numbers of the
  filters 3 and 4, the two ends of a range of ranks, are moved two ranks toward their midpoint and
  clamped there.
-/
import Rpcn.Rematch.Search

namespace Rpcn

open Lib Np2Structs

/-! ## 1. One filter -/

variable {room : Room} {fs : List IntSearchFilter} {attr : IntAttr}

variable {f : IntSearchFilter} {req : SearchRoomRequest}

namespace Room

def Meets (room : Room) (f : IntSearchFilter) : Prop := room.matchesInt [f] = .ok true

/-- The number of the room that a filter with this attribute tests. -/
def tested (room : Room) (attr : IntAttr) : Option UInt32 :=
  (Uint16.getVerifiedOpt attr.id).toOption.bind fun id => (room.searchInt id).map (·.attr)

theorem matchesInt_cons (room : Room) (f : IntSearchFilter) (fs : List IntSearchFilter) :
    room.matchesInt (f :: fs) =
      room.matchesInt [f] >>= fun b => if b then room.matchesInt fs else return false := by
  rw [matchesInt, matchesInt, bind_assoc]
  refine bind_congr fun op => ?_
  cases f.attr with
  | none => rfl
  | some attr =>
    simp only [bind_assoc]
    refine bind_congr fun id => ?_
    split
    · split <;> rfl
    · rfl

theorem matchesInt_iff : room.matchesInt fs = .ok true ↔ ∀ f ∈ fs, room.Meets f := by
  induction fs with
  | nil => exact iff_of_true rfl (by simp)
  | cons f fs ih =>
    rw [matchesInt_cons, List.forall_mem_cons, ← ih]
    constructor
    · intro h
      obtain ⟨b, hb, h⟩ := Outcome.bind_eq_ok h
      cases b with
      | true => exact ⟨hb, h⟩
      | false => cases h
    · intro ⟨hf, hfs⟩
      rw [hf, Outcome.ok_bind]
      exact hfs

theorem matchesInt_of_filters {fs' : List IntSearchFilter} (hlen : fs.length = fs'.length)
    (h : ∀ (i : Nat) a b, fs[i]? = some a → fs'[i]? = some b → room.Meets a → room.Meets b)
    (hfs : room.matchesInt fs = .ok true) : room.matchesInt fs' = .ok true := by
  rw [matchesInt_iff] at hfs ⊢
  intro b hb
  obtain ⟨i, hi⟩ := List.mem_iff_getElem?.mp hb
  have hlt : i < fs.length := hlen ▸ (List.getElem?_eq_some_iff.mp hi).1
  exact h i _ b (List.getElem?_eq_getElem hlt) hi (hfs _ (List.getElem_mem hlt))

theorem meets_iff (room : Room) {n : UInt8} {op : Operator} (hattr : f.attr = some attr)
    (hn : Uint8.getVerifiedOpt f.searchOperator = .ok n) (hop : Operator.fromU8 n = some op) :
    room.Meets f ↔ ∃ x, room.tested attr = some x ∧ op.holds x attr.num = true := by
  unfold Meets tested
  rw [matchesInt, hn, hattr]
  simp only [Outcome.ofExcept, Outcome.ok_bind, hop]
  cases Uint16.getVerifiedOpt attr.id with
  | error e => exact iff_of_false (by intro h; cases h) (by simp [Except.toOption])
  | ok id =>
    simp only [Outcome.ok_bind, Except.toOption, Option.bind_some]
    cases room.searchInt id with
    | none => exact iff_of_false (by intro h; cases h) (by simp)
    | some found =>
      cases hh : op.holds found.attr attr.num with
      | true => exact iff_of_true (by simp [hh]; rfl) ⟨found.attr, rfl, hh⟩
      | false => exact iff_of_false (by simp [hh]; intro h; cases h) (by simp [hh])

theorem isMatch_of_intFilter (h : room.isMatch req = .ok true)
    (hfs : room.matchesInt req.intFilter = .ok true → room.matchesInt fs = .ok true) :
    room.isMatch { req with intFilter := fs } = .ok true := by
  unfold isMatch at h ⊢
  split at h
  · cases h
  · rename_i hhidden
    rw [if_neg hhidden]
    split at h
    · cases h
    · rename_i hflags
      rw [if_neg hflags]
      obtain ⟨b, hb, h⟩ := Outcome.bind_eq_ok h
      cases b with
      | false => cases h
      | true =>
        rw [hfs hb, Outcome.ok_bind]
        exact h

end Room

/-! ## 2. The range -/

variable (a b : UInt32) {i : Nat}

namespace Rematch

def midRank (lower upper : UInt32) : UInt32 := lower + (upper - lower) / 2

theorem midRank_toNat {lower upper : UInt32} (h : lower ≤ upper) :
    (upper - lower).toNat = upper.toNat - lower.toNat ∧
      (midRank lower upper).toNat = lower.toNat + (upper.toNat - lower.toNat) / 2 := by
  have hle : lower.toNat ≤ upper.toNat := h
  have hsub : (upper - lower).toNat = upper.toNat - lower.toNat := UInt32.toNat_sub_of_le _ _ h
  have hlt := upper.toNat_lt
  refine ⟨hsub, ?_⟩
  unfold midRank
  rw [UInt32.toNat_add, UInt32.toNat_div, hsub]
  exact Nat.mod_eq_of_lt (by simp; omega)

theorem le_saturatingAdd : a ≤ saturatingAdd a b := by
  unfold saturatingAdd
  split
  · exact UInt32.le_iff_toNat_le.mpr (by simpa using Nat.le_of_lt_succ a.toNat_lt)
  · exact UInt32.not_lt.mp (by assumption)

theorem saturatingSub_le : saturatingSub a b ≤ a := by
  unfold saturatingSub
  split
  · exact UInt32.le_iff_toNat_le.mpr (Nat.zero_le _)
  · rename_i h
    have hle : b ≤ a := UInt32.not_lt.mp h
    rw [UInt32.le_iff_toNat_le, UInt32.toNat_sub_of_le _ _ hle]
    exact Nat.sub_le _ _

theorem le_min_le {a a' mid : UInt32} (h : a ≤ a') (hm : a ≤ mid) :
    a ≤ min a' mid ∧ min a' mid ≤ mid := by
  have hmin : min a' mid = if a' ≤ mid then a' else mid := rfl
  rw [hmin]
  split
  · exact ⟨h, by assumption⟩
  · exact ⟨hm, UInt32.le_refl _⟩

theorem le_max_le {b b' mid : UInt32} (h : b' ≤ b) (hm : mid ≤ b) :
    mid ≤ max b' mid ∧ max b' mid ≤ b := by
  have hmax : max b' mid = if b' ≤ mid then mid else b' := rfl
  rw [hmax]
  split
  · exact ⟨UInt32.le_refl _, hm⟩
  · rename_i hlt
    exact ⟨UInt32.le_of_lt (UInt32.not_le.mp hlt), h⟩

theorem adjustedRange_bounds {lower upper lower' upper' : UInt32}
    (h : adjustedRange lower upper = some (lower', upper')) :
    lower ≤ upper ∧ 10 < midRank lower upper ∧ (lower ≤ lower' ∧ lower' ≤ midRank lower upper) ∧
      midRank lower upper ≤ upper' ∧ upper' ≤ upper := by
  unfold adjustedRange at h
  split at h
  · cases h
  · rename_i hgt
    have hle : lower ≤ upper := UInt32.not_lt.mp hgt
    have hnat : lower.toNat ≤ upper.toNat := hle
    obtain ⟨_, hmid⟩ := midRank_toNat hle
    have hlow : lower ≤ midRank lower upper := by
      rw [UInt32.le_iff_toNat_le, hmid]
      omega
    have hhigh : midRank lower upper ≤ upper := by
      rw [UInt32.le_iff_toNat_le, hmid]
      omega
    change (if midRank lower upper ≤ firstDanMaxRank then none
      else if (min (saturatingAdd lower 2) (midRank lower upper),
        max (saturatingSub upper 2) (midRank lower upper)) = (lower, upper) then none
      else some _) = some (lower', upper') at h
    split at h
    · cases h
    · rename_i hdan
      split at h
      · cases h
      · cases h
        exact ⟨hle, UInt32.not_le.mp hdan, le_min_le (le_saturatingAdd _ _) hlow,
          le_max_le (saturatingSub_le _ _) hhigh⟩

/-! ## 3. The request -/

/-- **The request with nothing changed but the numbers of the filters 3 and 4**, from those of
    `lower` and `upper` to `lower'` and `upper'`. -/
structure Narrowed (req adjusted : SearchRoomRequest) (f g : IntSearchFilter)
    (lower upper : IntAttr) (lower' upper' : UInt32) : Prop where
  lowerFilter : req.intFilter[rankLowerFilterIndex]? = some f
  lowerAttr : f.attr = some lower
  upperFilter : req.intFilter[rankUpperFilterIndex]? = some g
  upperAttr : g.attr = some upper
  adjusted_eq : adjusted = { req with
    intFilter := (req.intFilter.set rankLowerFilterIndex
        { f with attr := some { lower with num := lower' } }).set rankUpperFilterIndex
      { g with attr := some { upper with num := upper' } } }
  lower_le : lower.num ≤ lower'
  lower_le_mid : lower' ≤ midRank lower.num upper.num
  mid_le_upper : midRank lower.num upper.num ≤ upper'
  upper_le : upper' ≤ upper.num
  dan : 10 < midRank lower.num upper.num

theorem modify_withNum (hf : fs[i]? = some f) (hattr : f.attr = some attr) (num : UInt32) :
    fs.modify i (withNum num) = fs.set i { f with attr := some { attr with num } } := by
  rw [List.modify_eq_set_getElem?, hf]
  simp [withNum, hattr]

theorem exists_narrowed {comId : ComId} {adjusted : SearchRoomRequest}
    (h : buildNpwr02973AdjustedRequest comId req = some adjusted) :
    ∃ f g lower upper lower' upper', Narrowed req adjusted f g lower upper lower' upper' := by
  unfold buildNpwr02973AdjustedRequest at h
  split at h
  · cases h
  · simp only [Option.bind_eq_bind, Option.bind_eq_some_iff] at h
    obtain ⟨f, hf, lower, hlower, g, hg, upper, hupper, ⟨lower', upper'⟩, hrange, h⟩ := h
    obtain ⟨_, hdan, ⟨hl, hlm⟩, hum, hu⟩ := adjustedRange_bounds hrange
    refine ⟨f, g, lower, upper, lower', upper', hf, hlower, hg, hupper, ?_, hl, hlm, hum, hu, hdan⟩
    rw [← Option.some.inj h, modify_withNum hf hlower, modify_withNum ?_ hupper]
    rw [List.getElem?_set_ne (by decide)]
    exact hg

section Narrowed

variable {req adjusted : SearchRoomRequest} {f g : IntSearchFilter} {lower upper : IntAttr}
  {lower' upper' : UInt32}

theorem Narrowed.filters (h : Narrowed req adjusted f g lower upper lower' upper')
    {a b : IntSearchFilter} (ha : req.intFilter[i]? = some a)
    (hb : adjusted.intFilter[i]? = some b) :
    a = b ∨ a = f ∧ b = { f with attr := some { lower with num := lower' } } ∨
      a = g ∧ b = { g with attr := some { upper with num := upper' } } := by
  rw [h.adjusted_eq] at hb
  simp only [List.getElem?_set] at hb
  split at hb
  · rename_i hi
    rw [← hi, h.upperFilter] at ha
    split at hb
    · cases ha
      cases hb
      exact Or.inr (Or.inr ⟨rfl, rfl⟩)
    · cases hb
  · split at hb
    · rename_i hi
      rw [← hi, h.lowerFilter] at ha
      split at hb
      · cases ha
        cases hb
        exact Or.inr (Or.inl ⟨rfl, rfl⟩)
      · cases hb
    · exact Or.inl (Option.some.inj (ha.symm.trans hb))

theorem Narrowed.length (h : Narrowed req adjusted f g lower upper lower' upper') :
    adjusted.intFilter.length = req.intFilter.length := by
  rw [h.adjusted_eq]
  simp

theorem Narrowed.isMatch_of_isMatch (h : Narrowed req adjusted f g lower upper lower' upper')
    (hm : room.isMatch req = .ok true)
    (hf : room.Meets f → room.Meets { f with attr := some { lower with num := lower' } })
    (hg : room.Meets g → room.Meets { g with attr := some { upper with num := upper' } }) :
    room.isMatch adjusted = .ok true := by
  have hback : adjusted = { req with intFilter := adjusted.intFilter } := by
    rw [h.adjusted_eq]
  rw [hback]
  refine Room.isMatch_of_intFilter hm (Room.matchesInt_of_filters h.length.symm ?_)
  intro i a b ha hb hmeets
  rcases h.filters ha hb with rfl | ⟨rfl, rfl⟩ | ⟨rfl, rfl⟩
  · exact hmeets
  · exact hf hmeets
  · exact hg hmeets

theorem Narrowed.isMatch_of_adjusted (h : Narrowed req adjusted f g lower upper lower' upper')
    (hm : room.isMatch adjusted = .ok true)
    (hf : room.Meets { f with attr := some { lower with num := lower' } } → room.Meets f)
    (hg : room.Meets { g with attr := some { upper with num := upper' } } → room.Meets g) :
    room.isMatch req = .ok true := by
  have hback : req = { adjusted with intFilter := req.intFilter } := by
    rw [h.adjusted_eq]
  rw [hback]
  refine Room.isMatch_of_intFilter hm (Room.matchesInt_of_filters h.length ?_)
  intro i b a hb ha hmeets
  rcases h.filters ha hb with rfl | ⟨rfl, rfl⟩ | ⟨rfl, rfl⟩
  · exact hmeets
  · exact hf hmeets
  · exact hg hmeets

end Narrowed

/-- **Narrowing the range of ranks only narrows it.** For every com id and request: an adjusted
    request has nothing changed but the two numbers, each between the old one and the midpoint,
    which is above the first dan; and none of the arithmetic overflows. If the two filters are
    those of a range, every room that is found for the adjusted request is found for the one sent,
    and a room found for the one sent whose numbers are the midpoint is still found. -/
theorem adjusted_request_narrows (comId : ComId) (req : SearchRoomRequest) :
    (∀ lower upper : UInt32, lower ≤ upper →
      (upper - lower).toNat = upper.toNat - lower.toNat ∧
      (midRank lower upper).toNat = lower.toNat + (upper.toNat - lower.toNat) / 2) ∧
    ∀ adjusted, buildNpwr02973AdjustedRequest comId req = some adjusted →
      ∃ f g lower upper lower' upper', Narrowed req adjusted f g lower upper lower' upper' ∧
        (Uint8.getVerifiedOpt f.searchOperator = .ok 6 →
          Uint8.getVerifiedOpt g.searchOperator = .ok 4 → ∀ room : Room,
            (room.isMatch adjusted = .ok true → room.isMatch req = .ok true) ∧
            (room.isMatch req = .ok true →
              room.tested lower = some (midRank lower.num upper.num) →
              room.tested upper = some (midRank lower.num upper.num) →
              room.isMatch adjusted = .ok true)) := by
  refine ⟨fun lower upper => midRank_toNat, fun adjusted hadj => ?_⟩
  obtain ⟨f, g, lower, upper, lower', upper', h⟩ := exists_narrowed hadj
  refine ⟨f, g, lower, upper, lower', upper', h, fun hge hle room => ?_⟩
  have hfromGe : Operator.fromU8 6 = some .ge := rfl
  have hfromLe : Operator.fromU8 4 = some .le := rfl
  -- the lower filters ask for `x ≥ num`, the upper ones for `x ≤ num`
  have hf := Room.meets_iff room h.lowerAttr hge hfromGe
  have hf' := Room.meets_iff room (f := { f with attr := some { lower with num := lower' } }) rfl
    hge hfromGe
  have hg := Room.meets_iff room h.upperAttr hle hfromLe
  have hg' := Room.meets_iff room (f := { g with attr := some { upper with num := upper' } }) rfl
    hle hfromLe
  refine ⟨fun hm => h.isMatch_of_adjusted hm ?_ ?_, fun hm hmidL hmidU =>
    h.isMatch_of_isMatch hm ?_ ?_⟩
  · rw [hf, hf']
    intro ⟨x, hx, hholds⟩
    exact ⟨x, hx, decide_eq_true (UInt32.le_trans h.lower_le (of_decide_eq_true hholds))⟩
  · rw [hg, hg']
    intro ⟨x, hx, hholds⟩
    exact ⟨x, hx, decide_eq_true (UInt32.le_trans (of_decide_eq_true hholds) h.upper_le)⟩
  · intro _
    rw [hf']
    exact ⟨_, hmidL, decide_eq_true h.lower_le_mid⟩
  · intro _
    rw [hg']
    exact ⟨_, hmidU, decide_eq_true h.mid_le_upper⟩

def rankSearch (lower upper : UInt32) : SearchRoomRequest :=
  let skipped : IntSearchFilter := ⟨some ⟨1⟩, none⟩
  { anyRoom with
    intFilter := [skipped, skipped, skipped, ⟨some ⟨6⟩, some ⟨some ⟨0x4C⟩, lower⟩⟩,
      ⟨some ⟨4⟩, some ⟨some ⟨0x4C⟩, upper⟩⟩] }

theorem adjusted_request_narrows_ranks :
    buildNpwr02973AdjustedRequest npwr0297300 (rankSearch 20 30) = some (rankSearch 22 28) ∧
      ∃ room, Room.fromProtobuf
          { roomForTwo with roomSearchableIntAttrExternal := [⟨some ⟨0x4C⟩, 23⟩] } 0 = .ok room ∧
        room.isMatch (rankSearch 20 30) = .ok true := by
  have hadj : buildNpwr02973AdjustedRequest npwr0297300 (rankSearch 20 30) =
      some (rankSearch 22 28) := by decide
  refine ⟨hadj, _, rfl, ?_⟩
  obtain ⟨f, g, lower, upper, _, _, h, hrooms⟩ :=
    (adjusted_request_narrows npwr0297300 (rankSearch 20 30)).2 _ hadj
  obtain rfl : _ = f := Option.some.inj h.lowerFilter
  obtain rfl : _ = g := Option.some.inj h.upperFilter
  exact (hrooms rfl rfl _).1 (by decide)

end Rematch

end Rpcn
