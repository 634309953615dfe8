/-
  File:      Rpcn/Account/Reserved.lean
  Subject:   NAMES OF DELETED ACCOUNTS: `add_user`, `delete_user` and the two cleanups of
             database.rs, and whether the name of a deleted account can be taken again.

  Two rules keep a name from being taken. A live account holds its name up to the case of ASCII
  letters (`UNIQUE(username COLLATE NOCASE)`); a deleted account leaves the hash of its name behind,
  and `hash_username` hashes the bytes as they are. The two do not agree.
-/
import Rpcn.Account.Spec
import Rpcn.Lib.Run

namespace Rpcn.Account

open Lib

/-! ## 1. Operations -/

def isValidClientUsername (npid : String) : Bool :=
  3 ≤ npid.utf8ByteSize && npid.utf8ByteSize ≤ 16 &&
    npid.toList.all (fun x => x.isAlphanum || x == '-' || x == '_') &&
    npid != Database.deletedUserUsername

structure NewUser where
  username : String
  password : String
  onlineName : String
  avatarUrl : String
  email : String
  emailCheck : String
  isAdmin : Bool
  deriving DecidableEq, Repr

/-- What `add_user` draws and reads from the clock. Where the name and the address are both taken,
    `namesEmail` says which of the two constraints the database reports. -/
structure AddDraw where
  salt : List UInt8
  token : String
  timestamp : UInt32
  namesEmail : Bool
  deriving DecidableEq, Repr

/-- The day of a deletion, and which of its statements succeed: the two insertions, whose failure is
    only logged, and what follows them. -/
structure DeleteDraw where
  today : UInt32
  storesUsername : Bool
  storesEmail : Bool
  completes : Bool
  deriving DecidableEq, Repr

namespace Database

def nameTaken (db : Database) (username : String) : Bool :=
  db.account.any fun a => nocase a.username == nocase username

def emailTaken (db : Database) (emailCheck : String) : Bool :=
  db.account.any fun a => a.emailCheck == emailCheck

def nameHashed (hashRaw : String → List UInt8 → List UInt8) (db : Database) (username : String) :
    Bool := db.hashUsername hashRaw username ∈ db.usernameHash.keys

def emailHashed (hashRaw : String → List UInt8 → List UInt8) (db : Database) (emailCheck : String) :
    Bool := db.hashEmail hashRaw emailCheck ∈ db.emailHash.keys

def insertTimestamp (db : Database) (userId : UserId) (creation : UInt32) : Option Database :=
  if hk : userId ∈ db.account.keys ∧ userId ∉ db.accountTimestamp.keys then
    some { db with
      accountTimestamp := db.accountTimestamp.insert userId ⟨creation, none⟩
      stamped := by
        intro u t hu
        rw [HashMap.get?_insert] at hu
        split at hu
        · rename_i e
          exact e ▸ hk.1
        · exact db.stamped hu }
  else none

def NewUser.row (hashRaw : String → List UInt8 → List UInt8) (u : NewUser) (d : AddDraw) :
    AccountRow where
  username := u.username
  hash := hashRaw u.password d.salt
  salt := d.salt
  onlineName := u.onlineName
  avatarUrl := u.avatarUrl
  email := u.email
  emailCheck := u.emailCheck
  token := d.token
  admin := u.isAdmin
  statAgent := false
  banned := false

def addUser (hashRaw : String → List UInt8 → List UInt8) (db : Database) (u : NewUser)
    (d : AddDraw) : Except DbError String × Database :=
  if db.nameHashed hashRaw u.username then (.error .existingUsername, db)
  else if db.emailHashed hashRaw u.emailCheck then (.error .existingEmail, db)
  else
    match db.insertAccount (NewUser.row hashRaw u d) with
    | none =>
      -- the message of the constraint names the column
      if db.nameTaken u.username && !(db.emailTaken u.emailCheck && d.namesEmail) then
        (.error .existingUsername, db)
      else (.error .existingEmail, db)
    | some (_, db') =>
      match db'.getUserId u.username with
      | .error e => (.error e, db')
      | .ok userId =>
        match db'.insertTimestamp userId d.timestamp with
        | none => (.error .internal, db')
        | some db'' => (.ok d.token, db'')

def leaveHashes (hashRaw : String → List UInt8 → List UInt8) (db : Database)
    (username emailCheck : String) (d : DeleteDraw) : Database :=
  let db' :=
    if d.storesUsername then db.insertUsernameHash (db.hashUsername hashRaw username) d.today
    else db
  if d.storesEmail then db'.insertEmailHash (db.hashEmail hashRaw emailCheck) d.today else db'

def deleteUser (hashRaw : String → List UInt8 → List UInt8) (db : Database) (userId : UserId)
    (username emailCheck : String) (d : DeleteDraw) : Except DbError Unit × Database :=
  if username = deletedUserUsername then (.error .internal, db)
  else
    match db.getUserId deletedUserUsername with
    | .error _ => (.error .internal, db)
    | .ok _ =>
      let db' := db.leaveHashes hashRaw username emailCheck d
      if d.completes then (.ok (), db'.deleteAccounts {userId}) else (.error .internal, db')

/-- `DELETE FROM username_hash WHERE hash_date < ?1`, and the same of `email_hash`. -/
def deleteHashes (db : Database) (timestamp : UInt32) : Database :=
  { db with
    usernameHash := db.usernameHash.retain fun _ hashDate => ¬ hashDate < timestamp
    emailHash := db.emailHash.retain fun _ hashDate => ¬ hashDate < timestamp }

/-- `Database::cleanup_expired_hashes`, on a day. -/
def cleanupExpiredHashes (db : Database) (today : UInt32) : Except DbError Unit × Database :=
  if today < 3 * 30 then (.error .internal, db) else (.ok (), db.deleteHashes (today - 3 * 30))

/-- `Database::cleanup_never_used_accounts`, at a second. -/
def cleanupNeverUsedAccounts (db : Database) (now : UInt32) : Except String Nat × Database :=
  if now < 60 * 60 * 24 * 30 then (.error "Overflow when calculing timestamp", db)
  else
    let stale := db.staleUserIds (now - 60 * 60 * 24 * 30)
    (.ok stale.card, ((db.deleteTimestamps stale).deleteFriendships stale).deleteAccounts stale)

/-- `Database::update_user_password`, where the row carries the token it asks for. -/
def updateUserPassword (hashRaw : String → List UInt8 → List UInt8) (db : Database)
    (userId : UserId) (newPassword : String) (salt : List UInt8) : Database :=
  { db with
    account := db.account.modify userId fun a =>
      { a with hash := hashRaw newPassword salt, salt := salt }
    usernameUnique := db.usernameUnique.modify userId fun _ => rfl
    emailUnique := db.emailUnique.modify userId fun _ => rfl
    numbered := by
      intro u a hu
      have hk : u ∈ (db.account.modify userId _).keys := HashMap.mem_keys.mpr ⟨a, hu⟩
      rw [HashMap.keys_modify] at hk
      obtain ⟨a', ha'⟩ := HashMap.mem_keys.mp hk
      exact db.numbered ha'
    stamped := fun h => by
      rw [HashMap.keys_modify]
      exact db.stamped h
    befriended := fun h => by
      rw [HashMap.keys_modify]
      exact db.befriended h }

end Database

/-- The operations on the account tables. Those that write columns outside the model (the reset
    token and its times) are as good as none. -/
inductive AccountOp where
  | addUser (u : NewUser) (d : AddDraw)
  | deleteUser (userId : UserId) (username emailCheck : String) (d : DeleteDraw)
  | updateUserPassword (userId : UserId) (newPassword : String) (salt : List UInt8)
  | banUser (userId : UserId)
  | updateLoginTime (userId : UserId) (timestamp : UInt32)
  | setRelStatus (userId friendUserId : UserId) (statusUser statusFriend : UInt8)
  | cleanupExpiredHashes (today : UInt32)
  | cleanupNeverUsedAccounts (now : UInt32)
  deriving DecidableEq, Repr

variable (db : Database) (hashValue : List UInt8) (hashDate : UInt32) (u : NewUser)
  {db' : Database} {userId : UserId} {row : AccountRow}

variable (d : AddDraw)

namespace Database

/-- One operation: whether it returned `Ok`, and the tables after it. -/
def serve (hashRaw : String → List UInt8 → List UInt8) (db : Database) :
    AccountOp → Bool × Database
  | .addUser u d => ((db.addUser hashRaw u d).1.isOk, (db.addUser hashRaw u d).2)
  | .deleteUser userId username emailCheck d =>
    ((db.deleteUser hashRaw userId username emailCheck d).1.isOk,
      (db.deleteUser hashRaw userId username emailCheck d).2)
  | .updateUserPassword userId newPassword salt =>
    (true, db.updateUserPassword hashRaw userId newPassword salt)
  | .banUser userId => (true, db.banUser userId)
  | .updateLoginTime userId timestamp => (true, db.updateLoginTime userId timestamp)
  | .setRelStatus userId friendUserId statusUser statusFriend =>
    match db.setRelStatus userId friendUserId statusUser statusFriend with
    | .ok db' => (true, db')
    | .error _ => (false, db)
  | .cleanupExpiredHashes today =>
    ((db.cleanupExpiredHashes today).1.isOk, (db.cleanupExpiredHashes today).2)
  | .cleanupNeverUsedAccounts now =>
    ((db.cleanupNeverUsedAccounts now).1.isOk, (db.cleanupNeverUsedAccounts now).2)

/-- **The account tables under any operations.** -/
def accountOps (hashRaw : String → List UInt8 → List UInt8) (db : Database) :
    System Database AccountOp Bool :=
  ⟨db, fun _ _ => True, serve hashRaw⟩

def Unexpired (hashValue : List UInt8) (db : Database) : AccountOp → Prop
  | .cleanupExpiredHashes today =>
    hashValue ∈ (db.cleanupExpiredHashes today).2.usernameHash.keys
  | _ => True

/-! ## 2. Hashes stay -/

structure HashesKept (db db' : Database) : Prop where
  salt : db'.usernameSalt = db.usernameSalt
  hash : ∀ {h : List UInt8}, h ∈ db.usernameHash.keys → h ∈ db'.usernameHash.keys

theorem HashesKept.refl : HashesKept db db := ⟨rfl, id⟩

theorem HashesKept.trans {db db'' : Database} (h : HashesKept db db') (h' : HashesKept db' db'') :
    HashesKept db db'' :=
  ⟨h'.salt.trans h.salt, fun hm => h'.hash (h.hash hm)⟩

theorem hashesKept_of_eq {db : Database} (hs : db'.usernameSalt = db.usernameSalt)
    (hh : db'.usernameHash = db.usernameHash) : HashesKept db db' :=
  ⟨hs, fun hm => hh ▸ hm⟩

theorem insertUsernameHash_kept : HashesKept db (db.insertUsernameHash hashValue hashDate) := by
  unfold insertUsernameHash
  split
  · exact .refl db
  · refine ⟨rfl, fun hm => ?_⟩
    rw [HashMap.keys_insert]
    exact Finset.mem_insert_of_mem hm

theorem mem_insertUsernameHash :
    hashValue ∈ (db.insertUsernameHash hashValue hashDate).usernameHash.keys := by
  unfold insertUsernameHash
  split
  · assumption
  · rw [HashMap.keys_insert]
    exact Finset.mem_insert_self _ _

theorem insertEmailHash_kept : HashesKept db (db.insertEmailHash hashValue hashDate) := by
  unfold insertEmailHash
  split
  · exact .refl db
  · exact hashesKept_of_eq rfl rfl

section Operations

variable {hashRaw : String → List UInt8 → List UInt8}

theorem leaveHashes_kept (hashRaw : String → List UInt8 → List UInt8) (db : Database)
    (username emailCheck : String) (d : DeleteDraw) :
    HashesKept db (db.leaveHashes hashRaw username emailCheck d) := by
  have hname : HashesKept db
      (if d.storesUsername then db.insertUsernameHash (db.hashUsername hashRaw username) d.today
       else db) := by
    split
    · exact insertUsernameHash_kept _ _ _
    · exact .refl db
  unfold leaveHashes
  dsimp only
  split
  · exact hname.trans (insertEmailHash_kept _ _ _)
  · exact hname

theorem deleteUser_kept (hashRaw : String → List UInt8 → List UInt8) (db : Database)
    (userId : UserId) (username emailCheck : String) (d : DeleteDraw) :
    HashesKept db (db.deleteUser hashRaw userId username emailCheck d).2 := by
  have hleft := leaveHashes_kept hashRaw db username emailCheck d
  unfold deleteUser
  split
  · exact .refl db
  · split
    · exact .refl db
    · dsimp only
      split
      · exact hleft.trans (hashesKept_of_eq rfl rfl)
      · exact hleft

theorem insertAccount_kept {db : Database} {u : UserId} (h : db.insertAccount row = some (u, db')) :
    HashesKept db db' := by
  unfold insertAccount at h
  split at h
  · cases h
  · split at h
    · cases h
    · cases h
      exact hashesKept_of_eq rfl rfl

theorem insertTimestamp_kept {db : Database} {creation : UInt32}
    (h : db.insertTimestamp userId creation = some db') : HashesKept db db' := by
  unfold insertTimestamp at h
  split at h
  · cases h
    exact hashesKept_of_eq rfl rfl
  · cases h

theorem addUser_kept : HashesKept db (db.addUser hashRaw u d).2 := by
  unfold addUser
  split
  · exact .refl db
  · split
    · exact .refl db
    · split
      · split <;> exact .refl db
      · rename_i db' hins
        have hkept := insertAccount_kept hins
        split
        · exact hkept
        · split
          · exact hkept
          · rename_i hstamp
            exact hkept.trans (insertTimestamp_kept hstamp)

theorem cleanupNeverUsedAccounts_kept (now : UInt32) :
    HashesKept db (db.cleanupNeverUsedAccounts now).2 := by
  unfold cleanupNeverUsedAccounts
  split
  · exact .refl db
  · exact hashesKept_of_eq rfl rfl

theorem setRelStatus_kept {db : Database} {friendUserId : UserId}
    {statusUser statusFriend : UInt8}
    (h : db.setRelStatus userId friendUserId statusUser statusFriend = .ok db') :
    HashesKept db db' := by
  unfold setRelStatus replaceFriendship at h
  split at h
  · cases h
  · split at h
    · cases h
      exact hashesKept_of_eq rfl rfl
    · cases h

theorem cleanupExpiredHashes_salt (today : UInt32) :
    (db.cleanupExpiredHashes today).2.usernameSalt = db.usernameSalt := by
  unfold cleanupExpiredHashes
  split <;> rfl

theorem hashes_kept {db : Database} {op : AccountOp} {h : List UInt8}
    (hm : h ∈ db.usernameHash.keys) (hu : Unexpired h db op) :
    (db.serve hashRaw op).2.usernameSalt = db.usernameSalt ∧
      h ∈ (db.serve hashRaw op).2.usernameHash.keys := by
  have other : HashesKept db (db.serve hashRaw op).2 →
      (db.serve hashRaw op).2.usernameSalt = db.usernameSalt ∧
        h ∈ (db.serve hashRaw op).2.usernameHash.keys := fun hk => ⟨hk.salt, hk.hash hm⟩
  cases op with
  | addUser u d => exact other (addUser_kept db u d)
  | deleteUser userId username emailCheck d => exact other (deleteUser_kept hashRaw db _ _ _ d)
  | updateUserPassword userId newPassword salt => exact other (hashesKept_of_eq rfl rfl)
  | banUser userId => exact other (hashesKept_of_eq rfl rfl)
  | updateLoginTime userId timestamp => exact other (hashesKept_of_eq rfl rfl)
  | setRelStatus userId friendUserId statusUser statusFriend =>
    refine other ?_
    simp only [serve]
    split
    · rename_i hset
      exact setRelStatus_kept hset
    · exact .refl db
  | cleanupExpiredHashes today => exact ⟨cleanupExpiredHashes_salt db today, hu⟩
  | cleanupNeverUsedAccounts now => exact other (cleanupNeverUsedAccounts_kept db now)

/-! ## 3. Who is refused -/

/-- **The insertion fails on the name**: a live account bears it, and the address is either no
    reason to refuse or not the one reported. -/
structure NameReported (hashRaw : String → List UInt8 → List UInt8) (db : Database) (u : NewUser)
    (d : AddDraw) : Prop where
  emailHashed : db.emailHashed hashRaw u.emailCheck = false
  nameTaken : db.nameTaken u.username = true
  emailReported : (db.emailTaken u.emailCheck && d.namesEmail) = false

structure Free (hashRaw : String → List UInt8 → List UInt8) (db : Database) (u : NewUser) :
    Prop where
  nameHashed : db.nameHashed hashRaw u.username = false
  emailHashed : db.emailHashed hashRaw u.emailCheck = false
  nameTaken : db.nameTaken u.username = false
  emailTaken : db.emailTaken u.emailCheck = false

theorem insertAccount_none_iff (row : AccountRow) :
    db.insertAccount row = none ↔
      (db.nameTaken row.username = true ∨ db.emailTaken row.emailCheck = true) := by
  unfold insertAccount nameTaken emailTaken
  split
  · exact ⟨fun _ => .inl (by assumption), fun _ => rfl⟩
  · split
    · exact ⟨fun _ => .inr (by assumption), fun _ => rfl⟩
    · simp_all

theorem getUserId_insertAccount {db : Database} {u : UserId}
    (h : db.insertAccount row = some (u, db')) :
    db'.getUserId row.username = .ok u ∧ u ∈ db'.account.keys ∧
      u ∉ db'.accountTimestamp.keys := by
  unfold insertAccount at h
  split at h
  · cases h
  · split at h
    · cases h
    · cases h
      refine ⟨?_, ?_, ?_⟩
      · have hrow : (db.account.insert (db.sequence + 1) row).get? (db.sequence + 1) = some row := by
          rw [HashMap.get?_insert, if_pos rfl]
        unfold getUserId
        rw [selectUser_of_row hrow]
      · rw [HashMap.keys_insert]
        exact Finset.mem_insert_self _ _
      · intro hs
        -- timestamps have accounts, and the id is larger than that of every account
        obtain ⟨t, ht⟩ := HashMap.mem_keys.mp hs
        obtain ⟨a, ha⟩ := HashMap.mem_keys.mp (db.stamped ht)
        exact absurd (db.numbered ha) (not_le.mpr (Int.lt_succ _))

theorem addUser_of_insertAccount {db : Database} {u : NewUser} {d : AddDraw}
    (hname : db.nameHashed hashRaw u.username = false)
    (hemail : db.emailHashed hashRaw u.emailCheck = false)
    (hins : db.insertAccount (NewUser.row hashRaw u d) = some (userId, db')) :
    (db.addUser hashRaw u d).1 = .ok d.token := by
  obtain ⟨hid, hkey, hstamp⟩ := getUserId_insertAccount hins
  change db'.getUserId u.username = .ok userId at hid
  simp [addUser, hname, hemail, hins, hid, insertTimestamp, hkey, hstamp]

theorem addUser_cases :
    (db.nameHashed hashRaw u.username = true ∧
      (db.addUser hashRaw u d).1 = .error .existingUsername) ∨
    (db.nameHashed hashRaw u.username = false ∧ NameReported hashRaw db u d ∧
      (db.addUser hashRaw u d).1 = .error .existingUsername) ∨
    (db.nameHashed hashRaw u.username = false ∧ Free hashRaw db u ∧
      (db.addUser hashRaw u d).1 = .ok d.token) ∨
    (db.nameHashed hashRaw u.username = false ∧ ¬ NameReported hashRaw db u d ∧
      ¬ Free hashRaw db u ∧ (db.addUser hashRaw u d).1 = .error .existingEmail) := by
  cases hname : db.nameHashed hashRaw u.username with
  | true => exact .inl ⟨rfl, by simp [addUser, hname]⟩
  | false =>
    right
    cases hemail : db.emailHashed hashRaw u.emailCheck with
    | true =>
      refine .inr (.inr ⟨rfl, fun h => ?_, fun h => ?_, by simp [addUser, hname, hemail]⟩)
      · cases hemail.symm.trans h.emailHashed
      · cases hemail.symm.trans h.emailHashed
    | false =>
      cases hins : db.insertAccount (NewUser.row hashRaw u d) with
      | some x =>
        have hnone := mt (insertAccount_none_iff db (NewUser.row hashRaw u d)).mpr
          (by rw [hins]; exact Option.some_ne_none x)
        push Not at hnone
        exact .inr (.inl ⟨rfl,
          ⟨hname, hemail, Bool.eq_false_iff.mpr hnone.1, Bool.eq_false_iff.mpr hnone.2⟩,
          addUser_of_insertAccount hname hemail hins⟩)
      | none =>
        have htaken := (insertAccount_none_iff db (NewUser.row hashRaw u d)).mp hins
        cases hrep : db.nameTaken u.username && !(db.emailTaken u.emailCheck && d.namesEmail)
          with
        | true =>
          rw [Bool.and_eq_true, Bool.not_eq_true'] at hrep
          refine .inl ⟨rfl, ⟨hemail, hrep.1, hrep.2⟩, ?_⟩
          simp [addUser, hname, hemail, hins, hrep]
        | false =>
          refine .inr (.inr ⟨rfl, fun h => ?_, fun h => ?_, ?_⟩)
          · rw [h.nameTaken, h.emailReported] at hrep
            cases hrep
          · rcases htaken with ht | ht
            · cases ht.symm.trans h.nameTaken
            · cases ht.symm.trans h.emailTaken
          · simp only [addUser, hname, hemail, hins, hrep, Bool.false_eq_true, if_false]

theorem addUser_existingUsername_iff (db : Database) (u : NewUser) (d : AddDraw) :
    (db.addUser hashRaw u d).1 = .error .existingUsername ↔
      (db.nameHashed hashRaw u.username = true ∨ NameReported hashRaw db u d) := by
  rcases addUser_cases db u d with ⟨hn, h⟩ | ⟨hn, hr, h⟩ | ⟨hn, hf, h⟩ | ⟨hn, hr, hf, h⟩ <;> rw [h]
  · simp [hn]
  · simp [hr]
  · have hnot : ¬ NameReported hashRaw db u d := fun hr => by
      cases hr.nameTaken.symm.trans hf.nameTaken
    simp [hn, hnot]
  · simp [hn, hr]

theorem addUser_ok_iff (db : Database) (u : NewUser) (d : AddDraw) :
    (db.addUser hashRaw u d).1 = .ok d.token ↔ Free hashRaw db u := by
  rcases addUser_cases db u d with ⟨hn, h⟩ | ⟨hn, hr, h⟩ | ⟨hn, hf, h⟩ | ⟨hn, hr, hf, h⟩ <;> rw [h]
  · have hnot : ¬ Free hashRaw db u := fun hf => by cases hn.symm.trans hf.nameHashed
    simp [hnot]
  · have hnot : ¬ Free hashRaw db u := fun hf => by cases hr.nameTaken.symm.trans hf.nameTaken
    simp [hnot]
  · simp [hf]
  · simp [hf]

/-! ## 4. The name of a deleted account -/

theorem deleteUser_stores {db db₁ : Database} {a emailCheck : String} {d : DeleteDraw}
    (hd : d.storesUsername = true)
    (h : db.deleteUser hashRaw userId a emailCheck d = (.ok (), db₁)) :
    db₁.usernameSalt = db.usernameSalt ∧ db.hashUsername hashRaw a ∈ db₁.usernameHash.keys := by
  have hkept := deleteUser_kept hashRaw db userId a emailCheck d
  rw [h] at hkept
  refine ⟨hkept.salt, ?_⟩
  unfold deleteUser at h
  split at h
  · cases h
  · split at h
    · cases h
    · dsimp only at h
      split at h
      · cases h
        change _ ∈ (db.leaveHashes hashRaw a emailCheck d).usernameHash.keys
        unfold leaveHashes
        rw [hd]
        dsimp only
        split
        · exact (insertEmailHash_kept _ _ _).hash (mem_insertUsernameHash _ _ _)
        · exact mem_insertUsernameHash _ _ _
      · cases h

theorem hashed_of_run {db db₁ db₂ : Database} {a : String} {es : List (AccountOp × Bool)}
    (hs : db₁.usernameSalt = db.usernameSalt)
    (hm : db.hashUsername hashRaw a ∈ db₁.usernameHash.keys)
    (h : ((accountOps hashRaw db₁).restrict (Unexpired (db.hashUsername hashRaw a))).Run es db₂) :
    db₂.usernameSalt = db.usernameSalt ∧ db.hashUsername hashRaw a ∈ db₂.usernameHash.keys := by
  refine h.invariant (I := fun db' => db'.usernameSalt = db.usernameSalt ∧
    db.hashUsername hashRaw a ∈ db'.usernameHash.keys) ⟨hs, hm⟩ ?_
  intro db' op hI he
  obtain ⟨hsalt, hmem⟩ := hashes_kept hI.2 he.2
  exact ⟨hsalt.trans hI.1, hmem⟩

/-- **The name of a deleted account is refused**, as it was written, as long as its hash is there.
    Any other name, one that differs in case among them, is refused for reasons of its own only:
    its own hash is stored or a live account bears it. -/
theorem deleted_username_reserved
    (hinj : ∀ salt, Function.Injective fun name => hashRaw name salt)
    {db db₁ db₂ : Database} {userId : UserId} {a emailCheck : String} {d : DeleteDraw}
    (hd : d.storesUsername = true)
    (hdel : db.deleteUser hashRaw userId a emailCheck d = (.ok (), db₁))
    {es : List (AccountOp × Bool)}
    (h : ((accountOps hashRaw db₁).restrict (Unexpired (db.hashUsername hashRaw a))).Run es db₂) :
    (∀ u draw, u.username = a → (db₂.addUser hashRaw u draw).1 = .error .existingUsername) ∧
    (∀ b, db₂.hashUsername hashRaw b = db.hashUsername hashRaw a ↔ b = a) ∧
    (∀ u draw, (db₂.addUser hashRaw u draw).1 = .error .existingUsername ↔
      (db₂.nameHashed hashRaw u.username = true ∨ NameReported hashRaw db₂ u draw)) ∧
    ∀ u draw, (db₂.addUser hashRaw u draw).1 = .ok draw.token ↔ Free hashRaw db₂ u := by
  obtain ⟨hs, hm⟩ := deleteUser_stores hd hdel
  obtain ⟨hs, hm⟩ := hashed_of_run hs hm h
  have hsame : ∀ b, db₂.hashUsername hashRaw b = db.hashUsername hashRaw a ↔ b = a := by
    intro b
    unfold hashUsername
    rw [hs]
    exact (hinj db.usernameSalt).eq_iff
  refine ⟨?_, hsame, addUser_existingUsername_iff db₂, addUser_ok_iff db₂⟩
  intro u draw hu
  refine (addUser_existingUsername_iff db₂ u draw).mpr (.inl ?_)
  rw [hu, nameHashed, (hsame a).mpr rfl]
  exact decide_eq_true hm

end Operations

/-! ## 5. A name in another case -/

def plainHash (name : String) (salt : List UInt8) : List UInt8 := name.toUTF8.data.toList ++ salt

theorem plainHash_injective (salt : List UInt8) :
    Function.Injective fun name => plainHash name salt := by
  intro a b h
  exact String.toByteArray_inj.mp (ByteArray.ext (Array.toList_inj.mp (List.append_cancel_right h)))

def newUser (username emailCheck : String) : NewUser :=
  ⟨username, "secret", username, "", emailCheck, emailCheck, false⟩

def someDraw : AddDraw := ⟨[7], "token", 100, false⟩

def fullDelete : DeleteDraw := ⟨1000, true, true, true⟩

def adaAccount : Database :=
  ((((empty [1] [2]).addUser plainHash (newUser deletedUserUsername "") someDraw).2).addUser
    plainHash (newUser "Ada" "ada@x") someDraw).2

def adaDeleted : Database := (adaAccount.deleteUser plainHash 2 "Ada" "ada@x" fullDelete).2

theorem adaAccount_deleteUser :
    adaAccount.deleteUser plainHash 2 "Ada" "ada@x" fullDelete = (.ok (), adaDeleted) :=
  Prod.ext (by decide +kernel) rfl

theorem deleted_username_reserved_ada :
    (∃ es db₂, ((accountOps plainHash adaDeleted).restrict
        (Unexpired (adaAccount.hashUsername plainHash "Ada"))).Run es db₂ ∧
      es.map (·.2) = [true, true] ∧
      (db₂.addUser plainHash (newUser "Ada" "new@x") someDraw).1 = .error .existingUsername) := by
  have hkept : Unexpired (adaAccount.hashUsername plainHash "Ada")
      (adaDeleted.serve plainHash (.addUser (newUser "bob" "bob@x") someDraw)).2
      (.cleanupExpiredHashes 1090) := by
    change _ ∈ _
    decide +kernel
  have hrun := ((System.Run.start
      (M := (accountOps plainHash adaDeleted).restrict
        (Unexpired (adaAccount.hashUsername plainHash "Ada")))).step
    (AccountOp.addUser (newUser "bob" "bob@x") someDraw) ⟨trivial, trivial⟩).step
    (AccountOp.cleanupExpiredHashes 1090) ⟨trivial, hkept⟩
  refine ⟨_, _, hrun, by decide +kernel, ?_⟩
  exact (deleted_username_reserved plainHash_injective rfl adaAccount_deleteUser hrun).1 _ _ rfl

/-- **`Ada` is deleted and leaves its hash behind; `ada`, the same name to the table of accounts, is
    accepted at once**, though it would have been refused while `Ada` was there. -/
theorem other_case_accepted :
    isValidClientUsername "Ada" = true ∧ isValidClientUsername "ada" = true ∧
      nocase "Ada" = nocase "ada" ∧
      (adaAccount.addUser plainHash (newUser "ada" "new@x") someDraw).1 = .error .existingUsername ∧
      adaAccount.deleteUser plainHash 2 "Ada" "ada@x" fullDelete = (.ok (), adaDeleted) ∧
      adaAccount.hashUsername plainHash "Ada" ∈ adaDeleted.usernameHash.keys ∧
      (adaDeleted.addUser plainHash (newUser "ada" "new@x") someDraw).1 = .ok "token" := by
  refine ⟨by decide +kernel, by decide +kernel, by decide +kernel, by decide +kernel,
    adaAccount_deleteUser, by decide +kernel, by decide +kernel⟩

end Database

end Rpcn.Account
