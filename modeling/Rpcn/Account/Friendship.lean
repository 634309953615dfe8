/-
  File:      Rpcn/Account/Friendship.lean
  Subject:   THE TABLE `friendship`, seen from one side.

  A row is stored once for two users, under the smaller id first. `rel u v` is the row as `u` sees it:
  the own status, then the other's.
-/
import Rpcn.Account.Spec

namespace Rpcn.Account.Database

open Lib

/-! ## 1. Rows -/

/-- **The row of two users as the first sees it.** -/
def rel (db : Database) (u v : UserId) : Option (UInt8 × UInt8) :=
  (db.friendship.get? ((getOrderedUserids u v).1, (getOrderedUserids u v).2.1)).map
    (swapIf (getOrderedUserids u v).2.2)

variable {db : Database} {u v : UserId}

theorem getRelStatus_eq (h : u ≠ v) :
    db.getRelStatus u v = (db.rel u v).elim (.error .empty) .ok := by
  unfold getRelStatus rel
  rw [if_neg h]
  obtain ⟨first, second, swapped⟩ := getOrderedUserids u v
  cases hk : db.friendship.get? (first, second) <;> simp [hk]

theorem rel_of_lt (h : u < v) : db.rel u v = db.friendship.get? (u, v) := by
  unfold rel getOrderedUserids
  rw [if_pos h]
  cases db.friendship.get? (u, v) <;> rfl

theorem rel_of_gt (h : v < u) : db.rel u v = (db.friendship.get? (v, u)).map Prod.swap := by
  unfold rel getOrderedUserids
  rw [if_neg (lt_asymm h)]
  rfl

theorem rel_symm (h : u ≠ v) : db.rel v u = (db.rel u v).map Prod.swap := by
  rcases lt_or_gt_of_ne h with hlt | hgt
  · rw [rel_of_lt hlt, rel_of_gt hlt]
  · rw [rel_of_lt hgt, rel_of_gt hgt, Option.map_map]
    simp

theorem rel_self (db : Database) (u : UserId) : db.rel u u = none := by
  unfold rel getOrderedUserids
  rw [if_neg (lt_irrefl u)]
  cases hk : db.friendship.get? (u, u) with
  | none => rfl
  | some s => exact absurd (db.ordered hk) (lt_irrefl u)

variable {db' : Database} {su sv : UInt8}

theorem setRelStatus_ok (h : db.setRelStatus u v su sv = .ok db') :
    u ≠ v ∧ db'.account = db.account ∧ db'.accountTimestamp = db.accountTimestamp ∧
    db'.friendship = db.friendship.insert
      ((getOrderedUserids u v).1, (getOrderedUserids u v).2.1)
      (swapIf (getOrderedUserids u v).2.2 (su, sv)) := by
  unfold setRelStatus at h
  split at h
  · cases h
  · rename_i hne
    unfold replaceFriendship at h
    split at h
    · cases h
      exact ⟨hne, rfl, rfl, rfl⟩
    · cases h

theorem ordered_eq {a b : UserId} (h : ((getOrderedUserids a b).1, (getOrderedUserids a b).2.1) =
      ((getOrderedUserids u v).1, (getOrderedUserids u v).2.1)) :
    a = u ∧ b = v ∨ a = v ∧ b = u := by
  unfold getOrderedUserids at h
  split at h <;> split at h <;> simp only [Prod.mk.injEq] at h
  · exact Or.inl h
  · exact Or.inr h
  · exact Or.inr ⟨h.2, h.1⟩
  · exact Or.inl ⟨h.2, h.1⟩

theorem rel_setRelStatus (h : db.setRelStatus u v su sv = .ok db') :
    db'.rel u v = some (su, sv) ∧
    ∀ a b, ¬ (a = u ∧ b = v) → ¬ (a = v ∧ b = u) → db'.rel a b = db.rel a b := by
  obtain ⟨hne, _, _, hf⟩ := setRelStatus_ok h
  refine ⟨?_, fun a b h₁ h₂ => ?_⟩
  · unfold rel
    rw [hf, HashMap.get?_insert, if_pos rfl]
    cases (getOrderedUserids u v).2.2 <;> rfl
  · unfold rel
    rw [hf, HashMap.get?_insert, if_neg]
    intro hk
    rcases ordered_eq hk with e | e
    · exact h₁ e
    · exact h₂ e

/-! ## 2. Friends -/

/-- **Friends in both directions.** -/
def Mutual (db : Database) (u v : UserId) : Prop :=
  ∃ su sv, db.getRelStatus u v = .ok (su, sv) ∧ su &&& friendStatusFriend ≠ 0 ∧
    sv &&& friendStatusFriend ≠ 0

/-- The statuses that the requests write: a user has asked for friendship, or has not. -/
def PlainRows (db : Database) : Prop :=
  ∀ k s, db.friendship.get? k = some s →
    (s.1 = 0 ∨ s.1 = friendStatusFriend) ∧ (s.2 = 0 ∨ s.2 = friendStatusFriend)

theorem mutual_iff :
    db.Mutual u v ↔ ∃ su sv, db.rel u v = some (su, sv) ∧ su &&& friendStatusFriend ≠ 0 ∧
      sv &&& friendStatusFriend ≠ 0 := by
  unfold Mutual
  by_cases h : u = v
  · subst h
    simp [getRelStatus, rel_self]
  · rw [getRelStatus_eq h]
    cases db.rel u v <;> simp

theorem mutual_symm {db : Database} {u v : UserId} : db.Mutual u v ↔ db.Mutual v u := by
  by_cases h : u = v
  · rw [h]
  · rw [mutual_iff, mutual_iff, rel_symm h]
    constructor
    · intro ⟨su, sv, hr, hu, hv⟩
      exact ⟨sv, su, by rw [hr]; rfl, hv, hu⟩
    · intro ⟨sv, su, hr, hv, hu⟩
      obtain ⟨⟨x, y⟩, hxy, he⟩ := Option.map_eq_some_iff.mp hr
      cases he
      exact ⟨x, y, hxy, hu, hv⟩

theorem PlainRows.rel (h : db.PlainRows) (hr : db.rel u v = some (su, sv)) :
    (su = 0 ∨ su = friendStatusFriend) ∧ (sv = 0 ∨ sv = friendStatusFriend) := by
  obtain ⟨s, hs, he⟩ := Option.map_eq_some_iff.mp hr
  have := h _ s hs
  unfold swapIf at he
  split at he
  · cases he
    exact ⟨this.2, this.1⟩
  · cases he
    exact this

theorem PlainRows.mutual_iff (h : db.PlainRows) :
    db.Mutual u v ↔ db.rel u v = some (friendStatusFriend, friendStatusFriend) := by
  rw [Database.mutual_iff]
  constructor
  · intro ⟨su, sv, hr, hu, hv⟩
    obtain ⟨h₁, h₂⟩ := h.rel hr
    rcases h₁ with rfl | rfl
    · exact absurd rfl hu
    rcases h₂ with rfl | rfl
    · exact absurd rfl hv
    · exact hr
  · intro hr
    exact ⟨_, _, hr, by decide, by decide⟩

theorem mutual_setRelStatus (h : db.setRelStatus u v su sv = .ok db') :
    (db'.Mutual u v ↔ su &&& friendStatusFriend ≠ 0 ∧ sv &&& friendStatusFriend ≠ 0) ∧
    ∀ a b, ¬ (a = u ∧ b = v) → ¬ (a = v ∧ b = u) → (db'.Mutual a b ↔ db.Mutual a b) := by
  obtain ⟨hself, hother⟩ := rel_setRelStatus h
  refine ⟨?_, fun a b h₁ h₂ => ?_⟩
  · rw [Database.mutual_iff, hself]
    constructor
    · intro ⟨x, y, hxy, hx, hy⟩
      cases hxy
      exact ⟨hx, hy⟩
    · intro ⟨hx, hy⟩
      exact ⟨su, sv, rfl, hx, hy⟩
  · rw [Database.mutual_iff, Database.mutual_iff, hother a b h₁ h₂]

variable {s : UInt8 × UInt8} {scan : List (UserId × UserId)}

theorem mem_sides (hscan : ∀ k, k ∈ scan ↔ k ∈ db.friendRows u) :
    (v, s) ∈ db.sides u scan ↔ db.rel u v = some s := by
  unfold sides
  rw [List.mem_filterMap]
  constructor
  · intro ⟨k, hk, hside⟩
    obtain ⟨s₀, hs₀, he⟩ := Option.map_eq_some_iff.mp hside
    have hlt := db.ordered hs₀
    have hrow := (Finset.mem_filter.mp ((hscan k).mp hk)).2
    unfold sideOf at he
    split at he
    · rename_i hne
      have hk2 : k.2 = u := hrow.resolve_left hne
      cases he
      rw [rel_of_gt (hk2 ▸ hlt), ← hk2, hs₀]
      rfl
    · rename_i heq
      have hk1 : k.1 = u := not_not.mp heq
      cases he
      rw [rel_of_lt (hk1 ▸ hlt), ← hk1, hs₀]
  · intro hr
    have hne : u ≠ v := by
      intro e
      rw [e, rel_self] at hr
      cases hr
    rcases lt_or_gt_of_ne hne with hlt | hgt
    · rw [rel_of_lt hlt] at hr
      refine ⟨(u, v), (hscan _).mpr ?_, ?_⟩
      · exact Finset.mem_filter.mpr ⟨HashMap.mem_keys.mpr ⟨_, hr⟩, Or.inl rfl⟩
      · rw [hr]
        simp [sideOf]
    · rw [rel_of_gt hgt] at hr
      obtain ⟨s₀, hs₀, rfl⟩ := Option.map_eq_some_iff.mp hr
      refine ⟨(v, u), (hscan _).mpr ?_, ?_⟩
      · exact Finset.mem_filter.mpr ⟨HashMap.mem_keys.mpr ⟨_, hs₀⟩, Or.inr rfl⟩
      · rw [hs₀]
        simp [sideOf, Ne.symm hne]
        rfl

theorem mem_account_of_rel (h : db.rel u v = some s) : v ∈ db.account.keys := by
  obtain ⟨s₀, hs₀, _⟩ := Option.map_eq_some_iff.mp h
  have := db.befriended hs₀
  unfold getOrderedUserids at this
  split at this
  · exact this.2
  · exact this.1

theorem mem_listWhere (hscan : ∀ k, k ∈ scan ↔ k ∈ db.friendRows u) (p : UInt8 × UInt8 → Bool) :
    (∃ name, (v, name) ∈ db.useridToUsername (idsWhere (db.sides u scan) p)) ↔
      ∃ s, db.rel u v = some s ∧ p s = true := by
  unfold useridToUsername
  simp only [List.mem_filterMap]
  constructor
  · intro ⟨name, id, hid, hname⟩
    split at hname
    · cases hname
      obtain ⟨⟨v', s⟩, hmem, rfl⟩ := List.mem_map.mp hid
      obtain ⟨hside, hs⟩ := List.mem_filter.mp hmem
      exact ⟨s, (mem_sides hscan).mp hside, hs⟩
    · cases hname
  · intro ⟨s, hr, hs⟩
    obtain ⟨row, hrow⟩ := HashMap.mem_keys.mp (mem_account_of_rel hr)
    refine ⟨row.username, v, ?_, ?_⟩
    · refine List.mem_map.mpr ⟨(v, s), ?_, rfl⟩
      exact List.mem_filter.mpr ⟨(mem_sides hscan).mpr hr, hs⟩
    · simp [getUsername, hrow]

theorem mem_listOf (hscan : ∀ k, k ∈ scan ↔ k ∈ db.friendRows u) (s : UInt8 × UInt8) :
    (∃ name, (v, name) ∈ db.useridToUsername (idsWhere (db.sides u scan) fun s' => s' == s)) ↔
      db.rel u v = some s := by
  rw [mem_listWhere hscan]
  constructor
  · intro ⟨s', hr, hs⟩
    rw [hr, beq_iff_eq.mp hs]
  · intro hr
    exact ⟨s, hr, beq_self_eq_true s⟩

theorem mem_friends (hscan : ∀ k, k ∈ scan ↔ k ∈ db.friendRows u) :
    (∃ name, (v, name) ∈ (db.getRelationships u scan).friends) ↔
      db.rel u v = some (friendStatusFriend, friendStatusFriend) :=
  mem_listOf hscan _

end Rpcn.Account.Database
