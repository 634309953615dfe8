/-
  File:      Rpcn/Account/Spec.lean
  Subject:   WHAT THE STATEMENTS ON THE ACCOUNT TABLES DO, as far as the sessions depend on it.
-/
import Rpcn.Account.Database

namespace Rpcn.Account.Database

open Lib HashMap

/-! ## 1. Lookups -/

variable {username : String} {u : UserId} {row : AccountRow}

theorem selectUser_some {db : Database} (h : db.selectUser username = some (u, row)) :
    db.account.get? u = some row ∧ row.username = username := by
  obtain ⟨hg, hp⟩ := find?_some h
  exact ⟨hg, beq_iff_eq.mp hp⟩

theorem eq_of_username {db : Database} {v : UserId} {a b : AccountRow}
    (ha : db.account.get? u = some a) (hb : db.account.get? v = some b)
    (h : a.username = b.username) : u = v :=
  db.usernameUnique u v a b ha hb (congrArg nocase h)

theorem selectUser_of_row {db : Database} (h : db.account.get? u = some row) :
    db.selectUser row.username = some (u, row) := by
  refine find?_of_unique h (beq_self_eq_true _) ?_
  intro v b hb hp
  exact eq_of_username hb h (beq_iff_eq.mp hp)

theorem getUserId_ok {db : Database} {npid : String} (h : db.getUserId npid = .ok u) :
    ∃ row, db.account.get? u = some row ∧ row.username = npid := by
  unfold getUserId at h
  split at h
  · cases h
  · rename_i v row hsel
    cases h
    exact ⟨row, selectUser_some hsel⟩

theorem checkUser_ok {hashRaw : String → List UInt8 → List UInt8} {db : Database}
    {password token : String} {checkToken : Bool}
    (h : db.checkUser hashRaw username password token checkToken = .ok (u, row)) :
    db.account.get? u = some row ∧ row.username = username := by
  unfold checkUser at h
  split at h
  · cases h
  · rename_i v r hsel
    split at h
    · cases h
    · split at h
      · cases h
      · cases h
        exact selectUser_some hsel

/-! ## 2. What the statements keep -/

/-- The account has logged in, or has no row of timestamps to tell. -/
def LoggedIn (db : Database) (u : UserId) : Prop :=
  ∀ t, db.accountTimestamp.get? u = some t → t.lastLogin ≠ none

def Banned (db : Database) (u : UserId) : Prop :=
  ∀ row, db.account.get? u = some row → row.banned = true

structure Carried (db db' : Database) : Prop where
  row : ∀ {u : UserId} {a' : AccountRow}, db'.account.get? u = some a' →
    ∃ a, db.account.get? u = some a ∧ a'.username = a.username ∧
      (a.banned = true → a'.banned = true)
  loggedIn : ∀ {u : UserId}, db.LoggedIn u → db'.LoggedIn u

structure Unharmed (db db' : Database) : Prop extends Carried db db' where
  keys : ∀ {u : UserId}, u ∈ db.account.keys → u ∈ db'.account.keys

theorem Carried.banned {db db' : Database} (h : Carried db db') (hb : db.Banned u) :
    db'.Banned u := by
  intro a' ha'
  obtain ⟨a, ha, _, hk⟩ := h.row ha'
  exact hk (hb a ha)

variable (db : Database)

theorem Unharmed.refl : Unharmed db db :=
  ⟨⟨fun h => ⟨_, h, rfl, id⟩, id⟩, id⟩

theorem unharmed_of_account {db db' : Database} (ha : db'.account = db.account)
    (hl : ∀ {u : UserId}, db.LoggedIn u → db'.LoggedIn u) : Unharmed db db' :=
  ⟨⟨fun h => ⟨_, ha ▸ h, rfl, id⟩, hl⟩, fun h => ha ▸ h⟩

variable (userId : UserId)

theorem banUser_unharmed : Unharmed db (db.banUser userId) := by
  refine ⟨⟨?_, id⟩, ?_⟩
  · intro u a' ha'
    simp only [banUser, get?_modify] at ha'
    split at ha'
    · rename_i e
      obtain ⟨a, ha, rfl⟩ := Option.map_eq_some_iff.mp ha'
      exact ⟨a, e ▸ ha, rfl, fun _ => rfl⟩
    · exact ⟨a', ha', rfl, id⟩
  · intro u hu
    simp only [banUser, keys_modify]
    exact hu

theorem banUser_banned : (db.banUser userId).Banned userId := by
  intro row hrow
  simp only [banUser, get?_modify, if_true] at hrow
  obtain ⟨a, _, rfl⟩ := Option.map_eq_some_iff.mp hrow
  rfl

variable (timestamp : UInt32)

theorem updateLoginTime_unharmed : Unharmed db (db.updateLoginTime userId timestamp) := by
  refine unharmed_of_account rfl ?_
  intro u hu t ht
  simp only [updateLoginTime, get?_modify] at ht
  split at ht
  · obtain ⟨t', _, rfl⟩ := Option.map_eq_some_iff.mp ht
    exact Option.some_ne_none _
  · exact hu t ht

theorem updateLoginTime_loggedIn : (db.updateLoginTime userId timestamp).LoggedIn userId := by
  intro t ht
  simp only [updateLoginTime, get?_modify, if_true] at ht
  obtain ⟨t', _, rfl⟩ := Option.map_eq_some_iff.mp ht
  exact Option.some_ne_none _

variable (hashValue : List UInt8) (hashDate : UInt32)

theorem insertUsernameHash_unharmed : Unharmed db (db.insertUsernameHash hashValue hashDate) := by
  unfold insertUsernameHash
  split
  · exact .refl db
  · exact unharmed_of_account rfl id

theorem insertEmailHash_unharmed : Unharmed db (db.insertEmailHash hashValue hashDate) := by
  unfold insertEmailHash
  split
  · exact .refl db
  · exact unharmed_of_account rfl id

variable (users : Finset UserId)

theorem deleteTimestamps_unharmed : Unharmed db (db.deleteTimestamps users) :=
  unharmed_of_account rfl fun hu t ht => hu t (get?_retain_some.mp ht).1

theorem deleteFriendships_unharmed :
    Unharmed db (db.deleteFriendships users) := unharmed_of_account rfl id

theorem deleteAccounts_carried :
    Carried db (db.deleteAccounts users) where
  row h := ⟨_, (get?_retain_some.mp h).1, rfl, id⟩
  loggedIn hu t ht := hu t (get?_retain_some.mp ht).1

theorem mem_keys_deleteAccounts {db : Database} {users : Finset UserId} :
    u ∈ (db.deleteAccounts users).account.keys ↔ u ∈ db.account.keys ∧ u ∉ users := by
  rw [deleteAccounts, mem_keys_retain, decide_eq_true_eq]

theorem staleUserIds_not_loggedIn {db : Database} {timestamp : UInt32}
    (h : u ∈ db.staleUserIds timestamp) : ¬ db.LoggedIn u := by
  obtain ⟨t, ht⟩ := mem_keys.mp h
  rw [get?_retain_some, decide_eq_true_eq] at ht
  exact fun hl => hl t ht.1 ht.2.2

end Rpcn.Account.Database
