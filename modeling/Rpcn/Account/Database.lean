/-
  File:      Rpcn/Account/Database.lean
  Subject:   THE ACCOUNTS IN THE DATABASE: the tables `account`, `account_timestamp`, `friendship`,
             `username_hash` and `email_hash` of database.rs and the statements on them.

  A table with a primary key is a map from the key to the other columns. What the schema demands is
  a field of `Database`, so that a statement has to keep it: names and mail addresses are unique
  (names up to the case of ASCII letters), rows of `account_timestamp` and `friendship` have their
  accounts (the foreign keys), the ids of a friendship are in order (its `CHECK`), and an id is
  handed out once (`AUTOINCREMENT`).
-/
import Mathlib.Data.Multiset.Basic
import Rpcn.Lib.HashMap
import Rpcn.Np2Structs

namespace Rpcn.Account

open Lib

/-! ## 1. Tables -/

structure AccountRow where
  username : String
  hash : List UInt8
  salt : List UInt8
  onlineName : String
  avatarUrl : String
  email : String
  emailCheck : String
  token : String
  admin : Bool
  statAgent : Bool
  banned : Bool
  deriving DecidableEq, Repr

structure AccountTimestamp where
  creation : UInt32
  lastLogin : Option UInt32
  deriving DecidableEq, Repr

/-- What `COLLATE NOCASE` compares. -/
def nocase (s : String) : List Char := s.toList.map Char.toLower

structure Database where
  account : HashMap UserId AccountRow
  accountTimestamp : HashMap UserId AccountTimestamp
  friendship : HashMap (UserId × UserId) (UInt8 × UInt8)
  usernameHash : HashMap (List UInt8) UInt32
  emailHash : HashMap (List UInt8) UInt32
  usernameSalt : List UInt8
  emailSalt : List UInt8
  /-- The largest id handed out. -/
  sequence : UserId
  usernameUnique : account.UniqueBy fun a => nocase a.username
  emailUnique : account.UniqueBy fun a => a.emailCheck
  numbered : ∀ {u : UserId} {a : AccountRow}, account.get? u = some a → u ≤ sequence
  stamped : ∀ {u : UserId} {t : AccountTimestamp}, accountTimestamp.get? u = some t →
    u ∈ account.keys
  ordered : ∀ {k : UserId × UserId} {s : UInt8 × UInt8}, friendship.get? k = some s → k.1 < k.2
  befriended : ∀ {k : UserId × UserId} {s : UInt8 × UInt8}, friendship.get? k = some s →
    k.1 ∈ account.keys ∧ k.2 ∈ account.keys

namespace Database

def empty (usernameSalt emailSalt : List UInt8) : Database where
  account := ∅
  accountTimestamp := ∅
  friendship := ∅
  usernameHash := ∅
  emailHash := ∅
  usernameSalt := usernameSalt
  emailSalt := emailSalt
  sequence := 0
  usernameUnique := .empty _
  emailUnique := .empty _
  numbered h := by simp at h
  stamped h := by simp at h
  ordered h := by simp at h
  befriended h := by simp at h

/-! ## 2. Accounts -/

def selectUser (db : Database) (username : String) : Option (UserId × AccountRow) :=
  db.account.find? fun e => e.2.username == username

abbrev UserQueryResult := UserId × AccountRow

def checkUser (hashRaw : String → List UInt8 → List UInt8) (db : Database)
    (username password token : String) (checkToken : Bool) : Except DbError UserQueryResult :=
  match db.selectUser username with
  | none => .error .empty
  | some (userId, row) =>
    if checkToken && row.token != token then .error .wrongToken
    else if hashRaw password row.salt != row.hash then .error .wrongPass
    else .ok (userId, row)

def getUserId (db : Database) (npid : String) : Except DbError UserId :=
  match db.selectUser npid with
  | none => .error .empty
  | some (userId, _) => .ok userId

def getUsername (db : Database) (userId : UserId) : Except DbError String :=
  match db.account.get? userId with
  | none => .error .empty
  | some row => .ok row.username

def getEmailCheck (db : Database) (userId : UserId) : Except DbError String :=
  match db.account.get? userId with
  | none => .error .empty
  | some row => .ok row.emailCheck

theorem mem_keys_insert (m : HashMap UserId AccountRow) (u : UserId) (row : AccountRow) {v : UserId}
    (h : v ∈ m.keys) : v ∈ (m.insert u row).keys := by
  rw [HashMap.keys_insert]
  exact Finset.mem_insert_of_mem h

/-- `INSERT INTO account`: refused where the name or the address is taken. -/
def insertAccount (db : Database) (row : AccountRow) : Option (UserId × Database) :=
  if hn : db.account.any (fun a => nocase a.username == nocase row.username) = true then none
  else if he : db.account.any (fun a => a.emailCheck == row.emailCheck) = true then none
  else some (db.sequence + 1, { db with
    account := db.account.insert (db.sequence + 1) row
    sequence := db.sequence + 1
    usernameUnique := db.usernameUnique.insert_new _ fun _ _ hw =>
      beq_eq_false_iff_ne.mp (HashMap.any_eq_false (Bool.eq_false_iff.mpr hn) hw)
    emailUnique := db.emailUnique.insert_new _ fun _ _ hw =>
      beq_eq_false_iff_ne.mp (HashMap.any_eq_false (Bool.eq_false_iff.mpr he) hw)
    numbered := by
      intro u a hu
      rw [HashMap.get?_insert] at hu
      split at hu
      · rename_i e
        exact le_of_eq e
      · exact le_trans (db.numbered hu) (Int.le.intro 1 rfl)
    stamped := fun h => mem_keys_insert _ _ _ (db.stamped h)
    befriended := fun h =>
      ⟨mem_keys_insert _ _ _ (db.befriended h).1, mem_keys_insert _ _ _ (db.befriended h).2⟩ })

def banUser (db : Database) (userId : UserId) : Database :=
  { db with
    account := db.account.modify userId fun a => { a with banned := true }
    usernameUnique := db.usernameUnique.modify userId fun _ => rfl
    emailUnique := db.emailUnique.modify userId fun _ => rfl
    numbered := by
      intro u a hu
      have hk : u ∈ db.account.keys := by
        rw [← HashMap.keys_modify db.account userId]
        exact HashMap.mem_keys.mpr ⟨a, hu⟩
      obtain ⟨a', ha'⟩ := HashMap.mem_keys.mp hk
      exact db.numbered ha'
    stamped := fun h => by
      rw [HashMap.keys_modify]
      exact db.stamped h
    befriended := fun h => by
      rw [HashMap.keys_modify]
      exact db.befriended h }

/-- `Database::update_login_time`; an account without a row of timestamps is passed over. -/
def updateLoginTime (db : Database) (userId : UserId) (timestamp : UInt32) : Database :=
  { db with
    accountTimestamp :=
      db.accountTimestamp.modify userId fun t => { t with lastLogin := some timestamp }
    stamped := by
      intro u t hu
      have hk : u ∈ db.accountTimestamp.keys := by
        rw [← HashMap.keys_modify db.accountTimestamp userId]
        exact HashMap.mem_keys.mpr ⟨t, hu⟩
      obtain ⟨t', ht'⟩ := HashMap.mem_keys.mp hk
      exact db.stamped ht' }

/-! ## 3. Deletion -/

def deleteTimestamps (db : Database) (users : Finset UserId) : Database :=
  { db with
    accountTimestamp := db.accountTimestamp.retain fun u _ => u ∉ users
    stamped := fun h => db.stamped (HashMap.get?_retain_some.mp h).1 }

def deleteFriendships (db : Database) (users : Finset UserId) : Database :=
  { db with
    friendship := db.friendship.retain fun k _ => k.1 ∉ users ∧ k.2 ∉ users
    ordered := fun h => db.ordered (HashMap.get?_retain_some.mp h).1
    befriended := fun h => db.befriended (HashMap.get?_retain_some.mp h).1 }

/-- `DELETE FROM account WHERE user_id IN (..)`, with its cascades. -/
def deleteAccounts (db : Database) (users : Finset UserId) : Database :=
  { db with
    account := db.account.retain fun u _ => u ∉ users
    accountTimestamp := db.accountTimestamp.retain fun u _ => u ∉ users
    friendship := db.friendship.retain fun k _ => k.1 ∉ users ∧ k.2 ∉ users
    usernameUnique := db.usernameUnique.retain _
    emailUnique := db.emailUnique.retain _
    numbered := fun h => db.numbered (HashMap.get?_retain_some.mp h).1
    stamped := fun h => by
      rw [HashMap.get?_retain_some] at h
      exact HashMap.mem_keys_retain.mpr ⟨db.stamped h.1, h.2⟩
    ordered := fun h => db.ordered (HashMap.get?_retain_some.mp h).1
    befriended := fun h => by
      rw [HashMap.get?_retain_some, decide_eq_true_eq] at h
      rw [HashMap.mem_keys_retain, HashMap.mem_keys_retain, decide_eq_true_eq, decide_eq_true_eq]
      exact ⟨⟨(db.befriended h.1).1, h.2.1⟩, ⟨(db.befriended h.1).2, h.2.2⟩⟩ }

def deletedUserUsername : String := "DeletedUser"

def hashUsername (hashRaw : String → List UInt8 → List UInt8) (db : Database) (username : String) :
    List UInt8 := hashRaw username db.usernameSalt

def hashEmail (hashRaw : String → List UInt8 → List UInt8) (db : Database) (emailCheck : String) :
    List UInt8 := hashRaw emailCheck db.emailSalt

/-- `INSERT INTO username_hash`; a hash that is stored already stays as it is. -/
def insertUsernameHash (db : Database) (hashValue : List UInt8) (hashDate : UInt32) : Database :=
  if hashValue ∈ db.usernameHash.keys then db
  else { db with usernameHash := db.usernameHash.insert hashValue hashDate }

def insertEmailHash (db : Database) (hashValue : List UInt8) (hashDate : UInt32) : Database :=
  if hashValue ∈ db.emailHash.keys then db
  else { db with emailHash := db.emailHash.insert hashValue hashDate }

def staleUserIds (db : Database) (timestamp : UInt32) : Finset UserId :=
  (db.accountTimestamp.retain fun _ t => t.creation < timestamp ∧ t.lastLogin = none).keys

/-! ## 4. Friendships -/

def friendStatusFriend : UInt8 := 1

def friendStatusBlocked : UInt8 := 2

def getOrderedUserids (userId1 userId2 : UserId) : UserId × UserId × Bool :=
  if userId1 < userId2 then (userId1, userId2, false) else (userId2, userId1, true)

/-- The statuses of a row, read from the side of the caller. -/
def swapIf (swapped : Bool) (s : UInt8 × UInt8) : UInt8 × UInt8 := if swapped then (s.2, s.1) else s

def getRelStatus (db : Database) (userId friendUserId : UserId) : Except DbError (UInt8 × UInt8) :=
  if userId = friendUserId then .error .invalid
  else
    let (first, second, swapped) := getOrderedUserids userId friendUserId
    match db.friendship.get? (first, second) with
    | none => .error .empty
    | some s => .ok (swapIf swapped s)

theorem getOrderedUserids_lt {u v : UserId} (h : u ≠ v) :
    (getOrderedUserids u v).1 < (getOrderedUserids u v).2.1 := by
  unfold getOrderedUserids
  split
  · assumption
  · exact lt_of_le_of_ne (not_lt.mp (by assumption)) (Ne.symm h)

/-- `REPLACE INTO friendship`: refused by the foreign keys where an account is missing. -/
def replaceFriendship (db : Database) (k : UserId × UserId) (s : UInt8 × UInt8) (h : k.1 < k.2) :
    Except DbError Database :=
  if hk : k.1 ∈ db.account.keys ∧ k.2 ∈ db.account.keys then
    .ok { db with
      friendship := db.friendship.insert k s
      ordered := by
        intro k' s' h'
        rw [HashMap.get?_insert] at h'
        split at h'
        · rename_i e
          exact e ▸ h
        · exact db.ordered h'
      befriended := by
        intro k' s' h'
        rw [HashMap.get?_insert] at h'
        split at h'
        · rename_i e
          exact e ▸ hk
        · exact db.befriended h' }
  else .error .internal

def setRelStatus (db : Database) (userId friendUserId : UserId) (statusUser statusFriend : UInt8) :
    Except DbError Database :=
  if h : userId = friendUserId then .error .invalid
  else
    db.replaceFriendship
      ((getOrderedUserids userId friendUserId).1, (getOrderedUserids userId friendUserId).2.1)
      (swapIf (getOrderedUserids userId friendUserId).2.2 (statusUser, statusFriend))
      (getOrderedUserids_lt h)

structure UserRelationships where
  friends : List (UserId × String)
  friendRequests : List (UserId × String)
  friendRequestsReceived : List (UserId × String)
  blocked : List (UserId × String)
  deriving DecidableEq, Repr

def friendRows (db : Database) (userId : UserId) : Finset (UserId × UserId) :=
  db.friendship.keys.filter fun k => k.1 = userId ∨ k.2 = userId

/-- A row read from the side of the user: the other one, the own status, the other's. -/
def sideOf (userId : UserId) (k : UserId × UserId) (s : UInt8 × UInt8) : UserId × UInt8 × UInt8 :=
  if k.1 ≠ userId then (k.1, s.2, s.1) else (k.2, s.1, s.2)

/-- The rows met by the query, each from the side of the user. -/
def sides (db : Database) (userId : UserId) (scan : List (UserId × UserId)) :
    List (UserId × UInt8 × UInt8) :=
  scan.filterMap fun k => (db.friendship.get? k).map (sideOf userId k)

def idsWhere (rows : List (UserId × UInt8 × UInt8)) (p : UInt8 × UInt8 → Bool) : List UserId :=
  (rows.filter fun r => p r.2).map (·.1)

/-- `userid_to_username`: an id without an account is left out. -/
def useridToUsername (db : Database) (ids : List UserId) : List (UserId × String) :=
  ids.filterMap fun id =>
    match db.getUsername id with
    | .ok username => some (id, username)
    | .error _ => none

def getRelationships (db : Database) (userId : UserId) (scan : List (UserId × UserId)) :
    UserRelationships :=
  let rows := db.sides userId scan
  { friends := db.useridToUsername
      (idsWhere rows fun s => s == (friendStatusFriend, friendStatusFriend))
    friendRequests := db.useridToUsername (idsWhere rows fun s => s == (friendStatusFriend, 0))
    friendRequestsReceived :=
      db.useridToUsername (idsWhere rows fun s => s == (0, friendStatusFriend))
    blocked := db.useridToUsername (idsWhere rows fun s => s.2 &&& friendStatusBlocked != 0) }

end Database

end Rpcn.Account
