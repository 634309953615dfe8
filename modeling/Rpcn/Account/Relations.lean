/-
  File:      Rpcn/Account/Relations.lean
  Subject:   THE TWO SIDES OF A FRIENDSHIP: `get_relationships`, `get_rel_status` and
             `set_rel_status` of two users, compared.

  One row stands for two users, so every function that reads it has to turn it to the side of its
  caller. For friends, requests and statuses this is done right. The list of blocked users is made
  from the status of the *other* side: `get_relationships` of a user lists who has blocked them.
-/
import Rpcn.Account.Friendship

namespace Rpcn.Account.Database

open Lib

def Lists (l : List (UserId × String)) (u : UserId) : Prop := ∃ name, (u, name) ∈ l

/-- The own status of `u` towards `v` has the bit `Blocked`. -/
def Blocks (db : Database) (u v : UserId) : Prop :=
  ∃ su sv, db.getRelStatus u v = .ok (su, sv) ∧ su &&& friendStatusBlocked ≠ 0

/-! ## 1. One row, two sides -/

variable {u v : UserId}

theorem getRelStatus_swap (db : Database) (h : u ≠ v) :
    db.getRelStatus u v = (db.getRelStatus v u).map Prod.swap := by
  rw [getRelStatus_eq h, getRelStatus_eq h.symm, rel_symm h]
  cases db.rel u v <;> rfl

variable {db : Database}

theorem rel_eq_swap (h : u ≠ v) (s : UInt8 × UInt8) :
    db.rel u v = some s ↔ db.rel v u = some s.swap := by
  rw [rel_symm h]
  cases hr : db.rel u v with
  | none => simp
  | some s' => simp [Prod.swap_inj]

theorem blocks_iff (h : u ≠ v) :
    db.Blocks u v ↔ ∃ s, db.rel u v = some s ∧ s.1 &&& friendStatusBlocked ≠ 0 := by
  unfold Blocks
  rw [getRelStatus_eq h]
  cases db.rel u v with
  | none => simp
  | some s =>
    obtain ⟨su, sv⟩ := s
    simp

theorem getRelStatus_setRelStatus (h : u ≠ v) (hu : u ∈ db.account.keys)
    (hv : v ∈ db.account.keys) (a b : UInt8) :
    ∃ db', db.setRelStatus u v a b = .ok db' ∧ db'.getRelStatus u v = .ok (a, b) := by
  have hset : ∃ db', db.setRelStatus u v a b = .ok db' := by
    have hkeys : (getOrderedUserids u v).1 ∈ db.account.keys ∧
        (getOrderedUserids u v).2.1 ∈ db.account.keys := by
      unfold getOrderedUserids
      split
      · exact ⟨hu, hv⟩
      · exact ⟨hv, hu⟩
    unfold setRelStatus replaceFriendship
    rw [dif_neg h, dif_pos hkeys]
    exact ⟨_, rfl⟩
  obtain ⟨db', hdb'⟩ := hset
  refine ⟨db', hdb', ?_⟩
  rw [getRelStatus_eq h, (rel_setRelStatus hdb').1]
  rfl

/-! ## 2. The lists -/

section Scans

variable {db : Database} {u v : UserId} {scan : List (UserId × UserId)}

theorem mem_friendRequests (hscan : ∀ k, k ∈ scan ↔ k ∈ db.friendRows u) :
    Lists (db.getRelationships u scan).friendRequests v ↔
      db.rel u v = some (friendStatusFriend, 0) :=
  mem_listOf hscan _

theorem mem_friendRequestsReceived (hscan : ∀ k, k ∈ scan ↔ k ∈ db.friendRows u) :
    Lists (db.getRelationships u scan).friendRequestsReceived v ↔
      db.rel u v = some (0, friendStatusFriend) :=
  mem_listOf hscan _

theorem mem_blocked (hscan : ∀ k, k ∈ scan ↔ k ∈ db.friendRows u) (h : u ≠ v) :
    Lists (db.getRelationships u scan).blocked v ↔ db.Blocks v u := by
  rw [blocks_iff h.symm]
  refine (mem_listWhere hscan _).trans ?_
  constructor
  · intro ⟨s, hr, hs⟩
    exact ⟨s.swap, (rel_eq_swap h s).mp hr, bne_iff_ne.mp hs⟩
  · intro ⟨s, hr, hs⟩
    exact ⟨s.swap, (rel_eq_swap h.symm s).mp hr, bne_iff_ne.mpr hs⟩

end Scans

/-- **What the two sides of a friendship agree on**, for every table and any two users with
    accounts: friends, requests and statuses. The lists of blocked users are right for a user
    exactly when both or neither of the two block the other. -/
theorem relationships_agree (db : Database) {u v : UserId} (huv : u ≠ v)
    (hu : u ∈ db.account.keys) (hv : v ∈ db.account.keys) {scanU scanV : List (UserId × UserId)}
    (hscanU : ∀ k, k ∈ scanU ↔ k ∈ db.friendRows u)
    (hscanV : ∀ k, k ∈ scanV ↔ k ∈ db.friendRows v) :
    (Lists (db.getRelationships u scanU).friends v ↔
      Lists (db.getRelationships v scanV).friends u) ∧
    (Lists (db.getRelationships u scanU).friendRequests v ↔
      Lists (db.getRelationships v scanV).friendRequestsReceived u) ∧
    db.getRelStatus u v = (db.getRelStatus v u).map Prod.swap ∧
    (∀ a b, ∃ db', db.setRelStatus u v a b = .ok db' ∧ db'.getRelStatus u v = .ok (a, b)) ∧
    (Lists (db.getRelationships u scanU).blocked v ↔ db.Blocks v u) ∧
    ((Lists (db.getRelationships u scanU).blocked v ↔ db.Blocks u v) ↔
      (db.Blocks u v ↔ db.Blocks v u)) := by
  have hblocked := mem_blocked (v := v) hscanU huv
  refine ⟨?_, ?_, getRelStatus_swap db huv, getRelStatus_setRelStatus huv hu hv, hblocked, ?_⟩
  · exact (mem_friends hscanU).trans ((rel_eq_swap huv _).trans (mem_friends hscanV).symm)
  · exact (mem_friendRequests hscanU).trans
      ((rel_eq_swap huv _).trans (mem_friendRequestsReceived hscanV).symm)
  · rw [hblocked]
    exact iff_comm

def pairOf (statusFirst statusSecond : UInt8) : Database :=
  let withAccount (db : Database) (name : String) : Database :=
    ((db.insertAccount
      ⟨name, [], [], name, "", name, name, "", false, false, false⟩).map (·.2)).getD db
  let db := withAccount (withAccount (.empty [] []) "ada") "bob"
  (db.setRelStatus 1 2 statusFirst statusSecond).toOption.getD db

theorem relationships_agree_mutual :
    Lists ((pairOf 2 2).getRelationships 1 [(1, 2)]).blocked 2 ∧ (pairOf 2 2).Blocks 1 2 := by
  have hfirst : ∀ k, k ∈ [(1, 2)] ↔ k ∈ (pairOf 2 2).friendRows 1 := by
    have hrows : (pairOf 2 2).friendRows 1 = {(1, 2)} := by decide
    simp [hrows]
  have hsecond : ∀ k, k ∈ [(1, 2)] ↔ k ∈ (pairOf 2 2).friendRows 2 := by
    have hrows : (pairOf 2 2).friendRows 2 = {(1, 2)} := by decide
    simp [hrows]
  have h := relationships_agree (pairOf 2 2) (by decide) (by decide) (by decide) hfirst hsecond
  exact ⟨h.2.2.2.2.1.mpr ⟨2, 2, by decide, by decide⟩, 2, 2, by decide, by decide⟩

/-- **Who blocks is not shown whom they block.** User 1 blocks user 2: the list of user 1 is empty,
    and that of user 2 names user 1. -/
theorem blocked_list_swapped :
    (pairOf 2 0).getRelStatus 1 2 = .ok (2, 0) ∧
      ((pairOf 2 0).getRelationships 1 [(1, 2)]).blocked = [] ∧
      ((pairOf 2 0).getRelationships 2 [(1, 2)]).blocked = [(1, "ada")] ∧
      (pairOf 2 0).friendRows 1 = {(1, 2)} ∧ (pairOf 2 0).friendRows 2 = {(1, 2)} := by
  decide

end Rpcn.Account.Database
