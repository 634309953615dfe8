/-
  File:      Rpcn/Account/Deletion.lean
  Subject:   WHAT IS LEFT OF A DELETED ACCOUNT in the memory of the server.

  A deletion removes the row of the account, and with it, by the foreign keys, the rows of `score`
  and `friendship`. It tells neither the score cache nor the friend maps of those who are online.
-/
import Rpcn.Friend.Interleaved
import Rpcn.Score.Listed

namespace Rpcn

open Lib Session HashMap

/-! ## 1. The accounts behind the score boards -/

variable {users : Finset UserId} {u : UserId}

namespace Database

/-- `DELETE FROM account`, as far as the score boards go: `ON DELETE CASCADE`. -/
def deleteAccounts (db : Database) (users : Finset UserId) : Database where
  accounts := db.accounts.retain fun u _ => u ∉ users
  scoreTable := db.scoreTable
  score := db.score.retain fun k _ => k.userId ∉ users
  owned k c hk := by
    rw [HashMap.get?_retain_some] at hk
    exact HashMap.mem_keys_retain.mpr ⟨db.owned k c hk.1, hk.2⟩

def insertAccount (db : Database) (userId : UserId) (names : ScoreUserCache) : Database where
  accounts := db.accounts.insert userId names
  scoreTable := db.scoreTable
  score := db.score
  owned k c hk := by
    rw [HashMap.keys_insert]
    exact Finset.mem_insert_of_mem (db.owned k c hk)

theorem mem_accounts_deleteAccounts {db : Database} :
    u ∈ (db.deleteAccounts users).accounts.keys ↔ u ∈ db.accounts.keys ∧ u ∉ users := by
  rw [deleteAccounts, mem_keys_retain, decide_eq_true_eq]

end Database

variable {c : Client} {name : String} {r : ServerRequest} {chs : List Choice} {row : AccountRow}

variable {s' : SharedData} {w : Server} {cfg : Config}

namespace Deletion

open Account Friend
open Session (SharedData ClientSharedInfo Config Client Task Choice)

/-! ## 2. The server -/

structure Server where
  shared : SharedData
  score : ScoreServer

inductive ServerRequest where
  /-- A login, a logout, AddFriend or RemoveFriend. -/
  | friend (op : FriendOp)
  | score (op : ServerOp)
  /-- `INSERT INTO account`. -/
  | create (row : AccountRow)
  /-- `delete_account`, or `DelUser` of an administrator, by the client `c`. -/
  | delete (i : Nat) (c : Client) (r : Session.Request) (chs : List Choice)

def deletes : Session.Request → Bool
  | .deleteAccount _ _ => true
  | .delUser _ => true
  | _ => false

def delete (cfg : Config) (s : SharedData) (i : Nat) (c : Client) (r : Session.Request)
    (chs : List Choice) : SharedData × Task :=
  match Session.requestStep cfg s i c r with
  | none => (s, .client c .idle)
  | some (_, s', t) => runAlone cfg i chs s' t

/-- One request on the server, with the users it has deleted; `none` where it cannot be made, or
    would not be through. -/
def Server.serve (cfg : Config) (w : Server) : ServerRequest → Option (Finset UserId × Server)
  | .friend op => (op.serve cfg w.shared).map fun x => (∅, { w with shared := x.2 })
  | .score op => if op.isInsert then none else some (∅, { w with score := (op.call w.score).2 })
  | .create row => (w.shared.db.insertAccount row).map fun x =>
    (∅, { shared := { w.shared with db := x.2 }
          score := { w.score with
            db := w.score.db.insertAccount x.1 ⟨row.username, row.onlineName⟩ } })
  | .delete i c r chs =>
    let x := delete cfg w.shared i c r chs
    let users := w.shared.db.account.keys \ x.1.db.account.keys
    if deletes r ∧ atRest x.2 = true then
      some (users, { shared := x.1
                     score := { w.score with db := w.score.db.deleteAccounts users } })
    else none

/-- The server as it is started on a database: the cache is loaded from the rows of the boards. -/
def Server.start (db : Account.Database) (scores : Rpcn.Database) (boards : List TableDescription)
    (scans : TableDescription → List DbScoreInfo) (now : UInt64) : Server where
  shared := .start db
  score := ScoreServer.started scores boards scans now

/-- **The server that serves one request at a time.** -/
def accountServer (cfg : Config) (w₀ : Server) : System Server ServerRequest (Finset UserId) :=
  .ofPartial w₀ (Server.serve cfg)

structure Unreferenced (w : Server) (u : UserId) : Prop where
  unlisted : w.score.scoreCache.Only (· ≠ u)
  unfriended : ∀ v info, w.shared.clientInfos.get? v = some info → u ∉ info.friends.keys

/-- **What has to be so for a deletion**: the user is in no table of the cache, and no friend of the
    user is online. -/
structure Clear (w : Server) (u : UserId) : Prop where
  unlisted : w.score.scoreCache.Only (· ≠ u)
  friendsOffline : ∀ v, v ∈ w.shared.clientInfos.keys → ¬ w.shared.db.Mutual v u

def DeleteGuard (cfg : Config) (w : Server) (r : ServerRequest) : Prop :=
  ∀ users w', w.serve cfg r = some (users, w') → ∀ u ∈ users, Clear w u

/-! ## 3. What a deletion does -/

structure Removed (s s' : SharedData) (users : Finset UserId) : Prop where
  infos : s'.clientInfos = s.clientInfos
  offline : ∀ u ∈ users, u ∉ s.clientInfos.keys
  accounts : ∀ u, u ∈ s'.db.account.keys ↔ u ∈ s.db.account.keys ∧ u ∉ users
  rows : ∀ k, s'.db.friendship.get? k =
    if k.1 ∈ users ∨ k.2 ∈ users then none else s.db.friendship.get? k
  sequence : s'.db.sequence = s.db.sequence

theorem Removed.refl (s : SharedData) : Removed s s ∅ where
  infos := rfl
  offline u hu := absurd hu (Finset.notMem_empty u)
  accounts u := by simp
  rows k := by simp
  sequence := rfl

theorem Removed.same {s s₁ s₂ : SharedData} (h : Removed s s₁ users)
    (hi : s₂.clientInfos = s₁.clientInfos) (ha : s₂.db.account = s₁.db.account)
    (hf : s₂.db.friendship = s₁.db.friendship) (hs : s₂.db.sequence = s₁.db.sequence) :
    Removed s s₂ users where
  infos := hi.trans h.infos
  offline := h.offline
  accounts u := by rw [ha]; exact h.accounts u
  rows k := by rw [hf]; exact h.rows k
  sequence := hs.trans h.sequence

theorem Removed.delete {s s₁ : SharedData} (h : Removed s s₁ ∅) (hu : u ∉ s.clientInfos.keys) :
    Removed s { s₁.release with db := s₁.db.deleteAccounts {u} } {u} where
  infos := h.infos
  offline v hv := by rwa [Finset.mem_singleton.mp hv]
  accounts v := by
    rw [Database.mem_keys_deleteAccounts, h.accounts v]
    simp
  rows k := by
    show (s₁.db.friendship.retain _).get? k = _
    rw [get?_retain, h.rows k]
    by_cases hk : k.1 = u ∨ k.2 = u
    · have : ¬ (k.1 ≠ u ∧ k.2 ≠ u) := by tauto
      simp [hk, this]
    · have : k.1 ≠ u ∧ k.2 ≠ u := by tauto
      cases s.db.friendship.get? k <;> simp [this]
  sequence := h.sequence

inductive Progress (s₀ s : SharedData) : Task → Prop where
  | found (c : Client) (u : UserId) (name : String) (h : Removed s₀ s ∅) :
      Progress s₀ s (.client c (.delUser u name))
  | working (c : Client) (pc : Session.DeletePc) (u : UserId) (name emailCheck : String)
      (h : Removed s₀ s ∅) (habsent : 2 ≤ pc.stage → u ∉ s₀.clientInfos.keys) :
      Progress s₀ s (.client c (.delete pc u name emailCheck))
  | through (t : Task) (users : Finset UserId) (ht : atRest t = true) (h : Removed s₀ s users) :
      Progress s₀ s t

theorem atRest_resume (c : Client) : atRest c.resume = true := by
  unfold Client.resume
  split <;> rfl

section Progress

variable {cfg : Config} {ch : Choice} {i : Nat} {s₀ s s' : SharedData} {t t' : Task}
  {e : Session.Event}

variable (db : Account.Database)

theorem insertUsernameHash_rows (hashValue : List UInt8) (date : UInt32) :
    (db.insertUsernameHash hashValue date).account = db.account ∧
    (db.insertUsernameHash hashValue date).friendship = db.friendship ∧
    (db.insertUsernameHash hashValue date).sequence = db.sequence := by
  unfold Database.insertUsernameHash
  split <;> exact ⟨rfl, rfl, rfl⟩

theorem insertEmailHash_rows (hashValue : List UInt8) (date : UInt32) :
    (db.insertEmailHash hashValue date).account = db.account ∧
    (db.insertEmailHash hashValue date).friendship = db.friendship ∧
    (db.insertEmailHash hashValue date).sequence = db.sequence := by
  unfold Database.insertEmailHash
  split <;> exact ⟨rfl, rfl, rfl⟩

theorem deleteStep_progress {u : UserId} {emailCheck : String} {pc : DeletePc}
    (h : Removed s₀ s ∅) (habsent : 2 ≤ pc.stage → u ∉ s₀.clientInfos.keys)
    (hs : deleteStep cfg ch s i c u name emailCheck pc = some (e, s', t')) :
    Progress s₀ s' t' := by
  have hover : Progress s₀ s.release c.resume :=
    .through _ ∅ (atRest_resume c) (h.same rfl rfl rfl rfl)
  cases pc with
  | checked =>
    obtain ⟨s₁, hacq, he⟩ := Option.map_eq_some_iff.mp hs
    cases he
    obtain ⟨_, rfl⟩ := acquire_some hacq
    exact .working _ _ _ _ _ (h.same rfl rfl rfl rfl) fun h => absurd h (by decide)
  | entered =>
    simp only [deleteStep] at hs
    split at hs <;> cases hs
    · exact hover
    · rename_i hu
      exact .working _ _ _ _ _ h fun _ => h.infos ▸ hu
  | absent =>
    have hu := habsent (by decide)
    simp only [deleteStep] at hs
    split at hs
    · cases hs
      exact hover
    · split at hs <;> cases hs
      · exact hover
      · exact .working _ _ _ _ _ h fun _ => hu
  | prepared =>
    have hu := habsent (by decide)
    cases hs
    refine .working _ _ _ _ _ ?_ fun _ => hu
    split
    · obtain ⟨ha, hf, hseq⟩ := insertUsernameHash_rows s.db
        (s.db.hashUsername cfg.hashRaw name) ch.timestamp
      exact h.same rfl ha hf hseq
    · exact h
  | nameHashed =>
    have hu := habsent (by decide)
    cases hs
    refine .working _ _ _ _ _ ?_ fun _ => hu
    split
    · obtain ⟨ha, hf, hseq⟩ := insertEmailHash_rows s.db
        (s.db.hashEmail cfg.hashRaw emailCheck) ch.timestamp
      exact h.same rfl ha hf hseq
    · exact h
  | emailHashed =>
    cases hs
    exact .through _ {u} (atRest_resume c) (h.delete (habsent (by decide)))

theorem nextStep_atRest (h : atRest t = true) : nextStep cfg ch s i t = none := by
  cases t with
  | client c job =>
    cases job with
    | idle => rfl
    | _ => cases h
  | gone => rfl
  | _ => cases h

theorem nextStep_progress (h : Progress s₀ s t)
    (hs : nextStep cfg ch s i t = some (e, s', t')) : Progress s₀ s' t' := by
  cases h with
  | found c u name h =>
    simp only [nextStep] at hs
    split at hs <;> cases hs
    · exact .through _ ∅ (atRest_resume c) h
    · exact .working _ _ _ _ _ h fun h => absurd h (by decide)
  | working c pc u name emailCheck h habsent => exact deleteStep_progress h habsent hs
  | through _ users ht h =>
    rw [nextStep_atRest ht] at hs
    cases hs

theorem delete_removed {r : Request} (hr : deletes r = true)
    (hrest : atRest (delete cfg s i c r chs).2 = true) :
    ∃ users, Removed s (delete cfg s i c r chs).1 users := by
  have hprogress : Progress s (delete cfg s i c r chs).1 (delete cfg s i c r chs).2 := by
    unfold delete
    split
    · exact .through _ ∅ rfl (.refl s)
    · rename_i e s' t hs
      refine runAlone_invariant (I := Progress s) nextStep_progress ?_ chs
      cases r with
      | deleteAccount login password =>
        simp only [requestStep] at hs
        split at hs
        · cases hs
        · split at hs <;> cases hs
          · exact .through _ ∅ rfl (.refl s)
          · exact .working _ _ _ _ _ (.refl s) fun h => absurd h (by decide)
      | delUser username =>
        simp only [requestStep] at hs
        split at hs
        · split at hs <;> cases hs
          · exact .through _ ∅ rfl (.refl s)
          · exact .found _ _ _ (.refl s)
        · cases hs
      | _ => cases hr
  generalize delete cfg s i c r chs = x at hrest hprogress
  obtain ⟨s', t⟩ := x
  cases hprogress with
  | found => cases hrest
  | working => cases hrest
  | through _ users _ h => exact ⟨users, h⟩

end Progress

/-! ## 4. Requests that delete nobody -/

def SameAccounts (db db' : Account.Database) : Prop :=
  db'.account = db.account ∧ db'.sequence = db.sequence

section Friends

variable {cfg : Config} {ch : Choice} {i : Nat} {s s' : SharedData} {t t' : Task}
  {e : Session.Event}

theorem loginStep_accounts {pc : LoginPc}
    (hs : loginStep ch s i c u name row pc = some (e, s', t')) :
    SameAccounts s.db s'.db := by
  cases pc with
  | checked =>
    obtain ⟨s₁, hacq, he⟩ := Option.map_eq_some_iff.mp hs
    cases he
    obtain ⟨_, rfl⟩ := acquire_some hacq
    exact ⟨rfl, rfl⟩
  | related friends =>
    cases hs
    exact ⟨rfl, rfl⟩
  | stamped friends =>
    cases hs
    exact ⟨rfl, rfl⟩
  | published =>
    cases hs
    exact ⟨rfl, rfl⟩
  | known =>
    simp only [loginStep] at hs
    split at hs <;> cases hs
    exact ⟨rfl, rfl⟩
  | _ =>
    simp only [loginStep] at hs
    split at hs <;> cases hs <;> exact ⟨rfl, rfl⟩

theorem cleanupStep_accounts {pc : CleanupPc}
    (hs : cleanupStep ch s i c pc = some (e, s', t')) : s'.db = s.db := by
  cases cleanupStep_cases hs with
  | cleaned hr => exact (cleanStep_infos hr).1
  | uncounted => rfl
  | removed hw => rfl
  | announced => rfl
  | ended => rfl

theorem nextStep_accounts (ht : Alone t) (hs : nextStep cfg ch s i t = some (e, s', t')) :
    SameAccounts s.db s'.db := by
  cases t with
  | client c job =>
    cases job with
    | login pc u name row => exact loginStep_accounts hs
    | idle => cases hs
    | _ => cases ht
  | cleanup c pc =>
    rw [cleanupStep_accounts hs]
    exact ⟨rfl, rfl⟩
  | gone => cases hs
  | _ => cases ht

theorem runAlone_accounts (ht : Alone t) (chs : List Choice) :
    SameAccounts s.db (runAlone cfg i chs s t).1.db := by
  have hrun : Alone (runAlone cfg i chs s t).2 ∧ SameAccounts s.db (runAlone cfg i chs s t).1.db :=
    runAlone_invariant (I := fun s' t => Alone t ∧ SameAccounts s.db s'.db)
      (fun h hs => ⟨nextStep_alone h.1 hs, (nextStep_accounts h.1 hs).1.trans h.2.1,
        (nextStep_accounts h.1 hs).2.trans h.2.2⟩) ⟨ht, rfl, rfl⟩ chs
  exact hrun.2

theorem setRelStatus_sequence {db db' : Account.Database} {v : UserId} {su sv : UInt8}
    (h : db.setRelStatus u v su sv = .ok db') : db'.sequence = db.sequence := by
  unfold Database.setRelStatus at h
  split at h
  · cases h
  · unfold Database.replaceFriendship at h
    split at h <;> cases h
    rfl

theorem FriendOp.serve_accounts {op : FriendOp} (hs : op.serve cfg s = some ((), s')) :
    SameAccounts s.db s'.db := by
  cases op with
  | login i name password token chs =>
    simp only [FriendOp.serve] at hs
    split at hs <;> cases hs
    obtain ⟨t, chs', ht, _, heq⟩ := login_starts cfg s i name password token chs
    rw [heq]
    exact runAlone_accounts ht chs'
  | logout i c chs =>
    simp only [FriendOp.serve] at hs
    split at hs <;> cases hs
    obtain ⟨s₁, t, chs', ht, _, hdb, _, heq⟩ := logout_starts cfg s i c chs
    rw [heq, ← hdb]
    exact runAlone_accounts ht chs'
  | friend r =>
    cases hs
    refine ⟨serve_account s r, ?_⟩
    have he := serve_effect s r
    generalize (r.serve s).1 = reply at he
    generalize (r.serve s).2 = s' at he
    cases he with
    | written v rel su sf db hv hne hrel hst hdb =>
      rw [afterWrite_db]
      exact setRelStatus_sequence hdb
    | _ => rfl

end Friends

/-! ## 5. One request -/

/-- **What every request keeps**: both halves see the same accounts, the friend maps are right, and
    the users of the cache have accounts. -/
structure Consistent (w : Server) : Prop where
  oneDatabase : w.score.db.accounts.keys = w.shared.db.account.keys
  agree : Agree w.shared
  listed : w.score.scoreCache.Only (· ∈ w.shared.db.account.keys)

structure Gone (w : Server) (u : UserId) : Prop where
  account : u ∉ w.shared.db.account.keys
  used : u ≤ w.shared.db.sequence

section Requests

variable {cfg : Config} {w w' : Server} {users : Finset UserId} {u : UserId}

theorem Consistent.unreferenced (h : Consistent w) (hu : u ∉ w.shared.db.account.keys) :
    Unreferenced w u where
  unlisted := h.listed.mono fun v hv hvu => hu (hvu ▸ hv)
  unfriended v info hv hmem := by
    obtain ⟨su, sv, hrel, _⟩ := Database.mutual_iff.mp ((h.agree.right hv u).mp hmem)
    exact hu (Database.mem_account_of_rel hrel)

theorem Consistent.clear_iff (h : Consistent w) : Clear w u ↔ Unreferenced w u := by
  constructor
  · intro hc
    refine ⟨hc.unlisted, fun v info hv hmem => ?_⟩
    exact hc.friendsOffline v (mem_keys.mpr ⟨info, hv⟩) ((h.agree.right hv u).mp hmem)
  · intro hc
    refine ⟨hc.unlisted, fun v hv hm => ?_⟩
    obtain ⟨info, hinfo⟩ := mem_keys.mp hv
    exact hc.unfriended v info hinfo ((h.agree.right hinfo u).mpr hm)

variable {s : SharedData}

theorem rel_removed (h : Removed s s' users) (a b : UserId) :
    s'.db.rel a b = if a ∈ users ∨ b ∈ users then none else s.db.rel a b := by
  unfold Database.rel
  rw [h.rows]
  have hkey : (Database.getOrderedUserids a b).1 ∈ users ∨
      (Database.getOrderedUserids a b).2.1 ∈ users ↔ a ∈ users ∨ b ∈ users := by
    unfold Database.getOrderedUserids
    split
    · exact Iff.rfl
    · exact or_comm
  by_cases hu : a ∈ users ∨ b ∈ users
  · rw [if_pos (hkey.mpr hu), if_pos hu]
    rfl
  · rw [if_neg (fun h => hu (hkey.mp h)), if_neg hu]

theorem Removed.agree (hr : Removed s s' users) (h : Agree s)
    (hclear : ∀ u ∈ users, ∀ v ∈ s.clientInfos.keys, ¬ s.db.Mutual v u) : Agree s' where
  plain k st hk := by
    rw [hr.rows k] at hk
    split at hk
    · cases hk
    · exact h.plain k st hk
  right {v info} hv u := by
    rw [hr.infos] at hv
    have honline : v ∈ s.clientInfos.keys := mem_keys.mpr ⟨info, hv⟩
    have hv' : v ∉ users := fun hmem => hr.offline v hmem honline
    refine (h.right hv u).trans ?_
    rw [Database.mutual_iff, Database.mutual_iff, rel_removed hr]
    by_cases hu : u ∈ users
    · have hno := hclear u hu v honline
      rw [Database.mutual_iff] at hno
      rw [if_pos (Or.inr hu)]
      exact iff_of_false hno fun ⟨su, sv, hnone, _⟩ => by cases hnone
    · rw [if_neg (not_or.mpr ⟨hv', hu⟩)]

structure Served (w : Server) (users : Finset UserId) (w' : Server) : Prop where
  consistent : Consistent w'
  deleted : ∀ u ∈ users, Gone w' u
  still : ∀ u, Gone w u → Gone w' u

theorem Gone.same {w' : Server} (h : SameAccounts w.shared.db w'.shared.db) (hu : Gone w u) :
    Gone w' u :=
  ⟨h.1 ▸ hu.account, h.2 ▸ hu.used⟩

theorem serve_create (h : Consistent w) (hs : w.serve cfg (.create row) = some (users, w')) :
    Served w users w' := by
  obtain ⟨⟨id, db⟩, hins, heq⟩ := Option.map_eq_some_iff.mp hs
  cases heq
  have hdb : id = w.shared.db.sequence + 1 ∧ db.account = w.shared.db.account.insert id row ∧
      db.friendship = w.shared.db.friendship ∧ db.sequence = id := by
    unfold Account.Database.insertAccount at hins
    split at hins
    · cases hins
    · split at hins <;> cases hins
      exact ⟨rfl, rfl, rfl, rfl⟩
  obtain ⟨hid, haccount, hfriends, hseq⟩ := hdb
  have hkeys : db.account.keys = insert id w.shared.db.account.keys := by
    rw [haccount, keys_insert]
  refine ⟨⟨?_, ?_, ?_⟩, fun u hu => absurd hu (Finset.notMem_empty u), fun u hu => ⟨?_, ?_⟩⟩
  · show (w.score.db.accounts.insert id _).keys = db.account.keys
    rw [hkeys, keys_insert, h.oneDatabase]
  · exact h.agree.keep hfriends fun _ _ hu => hu
  · refine h.listed.mono fun u hu => ?_
    show u ∈ db.account.keys
    rw [hkeys]
    exact Finset.mem_insert_of_mem hu
  · show u ∉ db.account.keys
    rw [hkeys, Finset.mem_insert, hid]
    rintro (e | hmem)
    · have hle := hu.used
      rw [e] at hle
      exact absurd hle (not_le.mpr (lt_add_one w.shared.db.sequence))
    · exact hu.account hmem
  · show u ≤ db.sequence
    rw [hseq, hid]
    exact le_trans hu.used (le_of_lt (lt_add_one w.shared.db.sequence))

theorem serve_delete (h : Consistent w) {i : Nat} {r : Request}
    (hs : w.serve cfg (.delete i c r chs) = some (users, w')) (hg : ∀ u ∈ users, Clear w u) :
    Served w users w' := by
  simp only [Server.serve] at hs
  split at hs
  · rename_i hr
    cases hs
    obtain ⟨removed, hrem⟩ := delete_removed hr.1 hr.2
    generalize (delete cfg w.shared i c r chs).1 = s' at hrem hg
    -- the accounts that are gone are those removed which were there
    have hgone : ∀ u ∈ removed, u ∈ w.shared.db.account.keys →
        u ∈ w.shared.db.account.keys \ s'.db.account.keys := fun u hu hk =>
      Finset.mem_sdiff.mpr ⟨hk, fun hk' => ((hrem.accounts u).mp hk').2 hu⟩
    have hclear : ∀ u ∈ removed, ∀ v ∈ w.shared.clientInfos.keys, ¬ w.shared.db.Mutual v u := by
      intro u hu v hv hm
      obtain ⟨su, sv, hrel, _⟩ := Database.mutual_iff.mp hm
      exact (hg u (hgone u hu (Database.mem_account_of_rel hrel))).friendsOffline v hv hm
    refine ⟨⟨?_, hrem.agree h.agree hclear, ?_⟩, fun u hu => ?_, fun u hu => ?_⟩
    · ext u
      show u ∈ (w.score.db.deleteAccounts _).accounts.keys ↔ u ∈ s'.db.account.keys
      rw [Database.mem_accounts_deleteAccounts, h.oneDatabase, Finset.mem_sdiff]
      have := hrem.accounts u
      tauto
    · intro desc t ht
      have hkept : ∀ u, u ∈ w.shared.db.account.keys →
          (∀ v ∈ w.shared.db.account.keys \ s'.db.account.keys, u ≠ v) →
          u ∈ s'.db.account.keys := by
        intro u hu hne
        by_contra hu'
        exact hne u (Finset.mem_sdiff.mpr ⟨hu, hu'⟩) rfl
      refine ⟨fun e he => hkept _ ((h.listed desc t ht).listed e he) fun v hv => ?_,
        fun hp => hkept _ ((h.listed desc t ht).filed hp) fun v hv => ?_⟩
      · exact ((hg v hv).unlisted desc t ht).listed e he
      · exact ((hg v hv).unlisted desc t ht).filed hp
    · obtain ⟨hk, hk'⟩ := Finset.mem_sdiff.mp hu
      obtain ⟨row, hrow⟩ := mem_keys.mp hk
      exact ⟨hk', hrem.sequence ▸ w.shared.db.numbered hrow⟩
    · exact ⟨fun hk => hu.account ((hrem.accounts u).mp hk).1, hrem.sequence ▸ hu.used⟩
  · cases hs

theorem serve_served (h : Consistent w) (hg : DeleteGuard cfg w r)
    (hs : w.serve cfg r = some (users, w')) : Served w users w' := by
  cases r with
  | friend op =>
    obtain ⟨⟨_, s'⟩, hop, heq⟩ := Option.map_eq_some_iff.mp hs
    cases heq
    have hacc := FriendOp.serve_accounts hop
    refine ⟨⟨?_, FriendOp.serve_agree h.agree hop, ?_⟩, fun u hu => absurd hu (Finset.notMem_empty u),
      fun u hu => hu.same hacc⟩
    · exact h.oneDatabase.trans (by rw [hacc.1])
    · show w.score.scoreCache.Only (· ∈ s'.db.account.keys)
      rw [hacc.1]
      exact h.listed
  | score op =>
    simp only [Server.serve] at hs
    split at hs
    · cases hs
    · rename_i hop
      cases hs
      have hlisted : w.score.scoreCache.Only (· ∈ w.score.db.accounts.keys) := by
        rw [h.oneDatabase]
        exact h.listed
      obtain ⟨haccounts, hcache⟩ := ServerOp.call_only (Bool.eq_false_iff.mpr hop) hlisted
      rw [h.oneDatabase] at hcache
      refine ⟨⟨?_, h.agree, hcache⟩, fun u hu => absurd hu (Finset.notMem_empty u),
        fun u hu => ⟨hu.account, hu.used⟩⟩
      show (op.call w.score).2.db.accounts.keys = w.shared.db.account.keys
      rw [haccounts]
      exact h.oneDatabase
  | create row => exact serve_create h hs
  | delete i c r chs => exact serve_delete h hs (hg users w' hs)

end Requests

/-! ## 6. Runs -/

/-- The answers of `get_score_range` and `get_score_ids` about a table hold no line of the user. -/
structure NeverReturned (w : Server) (u : UserId) : Prop where
  range : ∀ desc t, w.score.scoreCache.tables.get? desc = some t → ∀ i line,
    ScoresCache.lineAt t w.score.scoreCache.users i = .ok line →
    ∃ e ∈ t.sortedScores, e.userId ≠ u ∧ ∃ names,
      w.score.scoreCache.users.get? e.userId = some names ∧ line = ScoresCache.lineFor names e i
  ids : ∀ desc t, w.score.scoreCache.tables.get? desc = some t → ∀ c,
    ScoresCache.lineOf t w.score.scoreCache.users (u, c) = .ok ⟨.default, "", []⟩

theorem Unreferenced.neverReturned (h : Unreferenced w u) :
    NeverReturned w u where
  range desc t ht _ _ hl := (h.unlisted desc t ht).lineAt hl
  ids desc t ht c := (h.unlisted desc t ht).lineOf (fun hu => hu rfl) _ c

section Runs

variable {cfg : Config} {db : Account.Database} {scores : Rpcn.Database}
  {boards : List TableDescription} {scans : TableDescription → List DbScoreInfo} {now : UInt64}
  {es : List (ServerRequest × Finset UserId)} {w w' : Server} {u : UserId}

theorem consistent_start (hone : scores.accounts.keys = db.account.keys) (hplain : db.PlainRows)
    (hscans : ∀ desc, (scans desc : Multiset DbScoreInfo) = scores.rowsOf desc) :
    Consistent (.start db scores boards scans now) where
  oneDatabase := hone
  agree := ⟨hplain, fun hu => by cases hu⟩
  listed := by
    have hlisted : (initializeScore scores boards scans now).Only (· ∈ scores.accounts.keys) :=
      only_loaded hscans now
    rwa [hone] at hlisted

theorem gone_of_run {w₀ : Server} (h₀ : Consistent w₀)
    (h : ((accountServer cfg w₀).restrict (DeleteGuard cfg)).Run es w) :
    Consistent w ∧ ∀ r users, (r, users) ∈ es → ∀ u ∈ users, Gone w u := by
  unfold accountServer at h
  refine h.carried_restrict (I := fun es w => Consistent w ∧
    ∀ r users, (r, users) ∈ es → ∀ u ∈ users, Gone w u) ⟨h₀, fun r users hmem => by cases hmem⟩ ?_
  intro es w r users w' _ hg ⟨hc, hgone⟩ hs
  have hserved := serve_served hc hg hs
  refine ⟨hserved.consistent, fun r' users' hmem u hu => ?_⟩
  rcases List.mem_append.mp hmem with hmem | hmem
  · exact hserved.still u (hgone r' users' hmem u hu)
  · cases List.mem_singleton.mp hmem
    exact hserved.deleted u hu

theorem unreferenced_of_serve (hs : w.serve cfg r = some (users, w')) (hu : u ∈ users) :
    Unreferenced w' u ↔ Unreferenced w u := by
  have hmemory : w'.score.scoreCache = w.score.scoreCache ∧
      w'.shared.clientInfos = w.shared.clientInfos := by
    cases r with
    | friend op =>
      obtain ⟨x, _, heq⟩ := Option.map_eq_some_iff.mp hs
      cases heq
      cases hu
    | score op =>
      simp only [Server.serve] at hs
      split at hs <;> cases hs
      cases hu
    | create row =>
      obtain ⟨x, _, heq⟩ := Option.map_eq_some_iff.mp hs
      cases heq
      cases hu
    | delete i c r chs =>
      simp only [Server.serve] at hs
      split at hs
      · rename_i hr
        cases hs
        obtain ⟨removed, hrem⟩ := delete_removed hr.1 hr.2
        exact ⟨rfl, hrem.infos⟩
      · cases hs
  obtain ⟨hcache, hinfos⟩ := hmemory
  constructor
  · exact fun h => ⟨hcache ▸ h.unlisted, hinfos ▸ h.unfriended⟩
  · exact fun h => ⟨hcache ▸ h.unlisted, hinfos ▸ h.unfriended⟩

/-- **A deleted account is referenced nowhere**, in a run whose deletions meet the guard: not after
    the deletion, nor at any later time. The guard is exact: after a deletion in a state so reached,
    the user is unreferenced if and only if the user was clear. -/
theorem deleted_users_unreferenced (hone : scores.accounts.keys = db.account.keys)
    (hplain : db.PlainRows)
    (hscans : ∀ desc, (scans desc : Multiset DbScoreInfo) = scores.rowsOf desc)
    (h : ((accountServer cfg (.start db scores boards scans now)).restrict
      (DeleteGuard cfg)).Run es w) :
    (∀ r users, (r, users) ∈ es → ∀ u ∈ users, Unreferenced w u ∧ NeverReturned w u) ∧
    ∀ r users w', w.serve cfg r = some (users, w') → ∀ u ∈ users,
      (Unreferenced w' u ↔ Clear w u) := by
  obtain ⟨hc, hgone⟩ := gone_of_run (consistent_start hone hplain hscans) h
  refine ⟨fun r users hmem u hu => ?_, fun r users w' hs u hu => ?_⟩
  · have hun := hc.unreferenced (hgone r users hmem u hu).account
    exact ⟨hun, hun.neverReturned⟩
  · exact (unreferenced_of_serve hs hu).trans hc.clear_iff.symm

end Runs

/-! ## 7. Two users -/

def threeAccounts : Account.Database :=
  Session.withAccount Session.twoAccounts (Session.plainRow Database.deletedUserUsername)

def threePlayers : Rpcn.Database :=
  let players : Rpcn.Database := ⟨∅, ∅, ∅, Rpcn.Database.owned_empty⟩
  ((players.insertAccount 1 ⟨"ada", "ada"⟩).insertAccount 2 ⟨"bob", "bob"⟩).insertAccount 3
    ⟨Database.deletedUserUsername, Database.deletedUserUsername⟩

def smallServer : Server := .start threeAccounts threePlayers [] (fun _ => []) 0

def recordOf (userId : UserId) (name : String) : ServerRequest :=
  .score (.recordScore ⟨userId, name, name, ""⟩ titleComId ⟨1, 0, 10, "", []⟩ true 1 0)

def bobDeletes : ServerRequest :=
  .delete 3 Client.new (.deleteAccount "bob" "") (List.replicate 6 {})

theorem deleteGuard_friend (w : Server) (op : FriendOp) : DeleteGuard cfg w (.friend op) := by
  intro users w' hs u hu
  obtain ⟨x, _, heq⟩ := Option.map_eq_some_iff.mp hs
  cases heq
  cases hu

theorem deleteGuard_score (w : Server) (op : ServerOp) : DeleteGuard cfg w (.score op) := by
  intro users w' hs u hu
  simp only [Server.serve] at hs
  split at hs <;> cases hs
  cases hu

def Server.after (w : Server) (r : ServerRequest) : Server :=
  ((w.serve Session.openConfig r).map Prod.snd).getD w

theorem serve_after (h : (w.serve openConfig r).map Prod.fst = some users) :
    w.serve openConfig r = some (users, w.after r) := by
  obtain ⟨⟨_, w'⟩, hs, rfl⟩ := Option.map_eq_some_iff.mp h
  rw [Server.after, hs]
  rfl

def adaLogsIn : ServerRequest := .friend (.login 1 "ada" "" "" eightSteps)

def adaListed : Server := (smallServer.after adaLogsIn).after (recordOf 1 "ada")

def adaTable : ScoreTableCache :=
  ⟨[scoreOf 1 10 1], (∅ : HashMap UserId (HashMap Int Nat)).insert2 1 0 0, .default, 0⟩

theorem adaTable_only : adaTable.Only (· ≠ 2) where
  listed e he := by
    rw [List.mem_singleton.mp he]
    decide
  filed {u c pos} hp := by
    unfold ScoreTableCache.posOf adaTable at hp
    rw [get2?_insert2] at hp
    split at hp
    · rename_i e
      rw [e.1]
      decide
    · rw [get2?_empty] at hp
      cases hp

theorem adaListed_clear : Clear adaListed 2 where
  unlisted := by
    have htables : adaListed.score.scoreCache.tables =
        (∅ : HashMap TableDescription ScoreTableCache).insert (.new titleComId 1) adaTable := by
      decide +kernel
    unfold ScoresCache.Only
    rw [htables]
    exact (All.empty _).insert _ adaTable_only
  friendsOffline v _ hm := by
    have hnone : adaListed.shared.db.friendship = ∅ := by decide +kernel
    obtain ⟨su, sv, hrel, _⟩ := Database.mutual_iff.mp hm
    unfold Database.rel at hrel
    rw [hnone] at hrel
    cases hrel

theorem deleted_users_unreferenced_stranger :
    ∃ es, ((accountServer Session.openConfig smallServer).restrict
        (DeleteGuard Session.openConfig)).Run es (adaListed.after bobDeletes) ∧
      (bobDeletes, {2}) ∈ es ∧ Unreferenced (adaListed.after bobDeletes) 2 := by
  have hdelete : adaListed.serve Session.openConfig bobDeletes =
      some ({2}, adaListed.after bobDeletes) := serve_after (by decide +kernel)
  have hguard : DeleteGuard Session.openConfig adaListed bobDeletes := by
    intro users w' hs u hu
    rw [hdelete] at hs
    cases hs
    rw [Finset.mem_singleton.mp hu]
    exact adaListed_clear
  have h : ((accountServer Session.openConfig smallServer).restrict
      (DeleteGuard Session.openConfig)).Run [(adaLogsIn, ∅), (recordOf 1 "ada", ∅), (bobDeletes, {2})]
      (adaListed.after bobDeletes) :=
    ((System.Run.start.snoc_restrict (deleteGuard_friend _ _)
      (serve_after (by decide +kernel))).snoc_restrict (deleteGuard_score _ _)
      (serve_after (by decide +kernel))).snoc_restrict hguard hdelete
  have hplain : threeAccounts.PlainRows := by
    intro k st hk
    have hnone : threeAccounts.friendship = ∅ := by decide +kernel
    rw [hnone] at hk
    cases hk
  have hmem : (bobDeletes, ({2} : Finset UserId)) ∈
      [(adaLogsIn, ∅), (recordOf 1 "ada", ∅), (bobDeletes, {2})] := by
    simp
  have hresult := deleted_users_unreferenced (by decide +kernel) hplain (fun _ => rfl) h
  exact ⟨_, h, hmem, (hresult.1 bobDeletes {2} hmem 2 (Finset.mem_singleton_self 2)).1⟩

def remains (x : List (ServerRequest × Finset UserId) × Server) :
    List (Finset UserId) × Option (Finset UserId) × Option (List UserId) :=
  (x.1.map Prod.snd, (x.2.shared.clientInfos.get? 1).map fun info => info.friends.keys,
    (x.2.score.scoreCache.tables.get? (.new titleComId 1)).map fun t =>
      t.sortedScores.map DbScoreInfo.userId)

theorem mem_of_remains {x : List (ServerRequest × Finset UserId) × Server}
    {deleted : List (Finset UserId)} {friends : Option (Finset UserId)}
    {listed : Option (List UserId)} (h : remains x = (deleted, friends, listed))
    (hmem : users ∈ deleted) : ∃ r, (r, users) ∈ x.1 := by
  have hsnd : x.1.map Prod.snd = deleted := congrArg Prod.fst h
  rw [← hsnd] at hmem
  obtain ⟨⟨r, _⟩, hr, rfl⟩ := List.mem_map.mp hmem
  exact ⟨r, hr⟩

/-- **A deleted user lives on**: user 2 has a score in the cache and a friend online, goes offline, and
    deletes the account. The friend's map still holds the user, and the table still lists the score. -/
theorem deleted_user_lives_on :
    ∃ es w info t e, (accountServer Session.openConfig smallServer).Run es w ∧
      (∃ r users, (r, users) ∈ es ∧ 2 ∈ users) ∧
      w.shared.clientInfos.get? 1 = some info ∧ 2 ∈ info.friends.keys ∧
      w.score.scoreCache.tables.get? (.new titleComId 1) = some t ∧ e ∈ t.sortedScores ∧
      e.userId = 2 := by
  have hrun : (System.execute (Server.serve Session.openConfig) smallServer
      [.friend (.login 1 "ada" "" "" eightSteps), .friend (.login 2 "bob" "" "" eightSteps),
        .friend (.friend adaAddsBob), .friend (.friend bobAddsAda), recordOf 2 "bob",
        .friend (.logout 2 ⟨true, ⟨2, "bob", "bob", ""⟩, false, (none, none)⟩
          (List.replicate 11 {})),
        bobDeletes]).map remains =
      some ([∅, ∅, ∅, ∅, ∅, ∅, {2}], some {2}, some [2]) := by
    decide +kernel
  obtain ⟨x, hx, hremains⟩ := Option.map_eq_some_iff.mp hrun
  have h : (accountServer Session.openConfig smallServer).Run x.1 x.2 := System.Run.start.execute hx
  obtain ⟨r, hr⟩ : ∃ r, (r, ({2} : Finset UserId)) ∈ x.1 := mem_of_remains hremains (by decide)
  obtain ⟨info, hinfo, hkeys⟩ := Option.map_eq_some_iff.mp (congrArg (fun y => y.2.1) hremains)
  obtain ⟨t, ht, hlisted⟩ := Option.map_eq_some_iff.mp (congrArg (fun y => y.2.2) hremains)
  have hmem : (2 : UserId) ∈ t.sortedScores.map DbScoreInfo.userId := by
    rw [hlisted]
    exact List.mem_singleton_self 2
  obtain ⟨e, he, hu⟩ := List.mem_map.mp hmem
  refine ⟨x.1, x.2, info, t, e, h, ⟨r, {2}, hr, Finset.mem_singleton_self 2⟩, hinfo, ?_, ht, he, hu⟩
  rw [hkeys]
  exact Finset.mem_singleton_self 2

end Deletion

end Rpcn
