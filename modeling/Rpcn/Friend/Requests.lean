/-
  File:      Rpcn/Friend/Requests.lean
  Subject:   AddFriend AND RemoveFriend of client/cmd_friend.rs, one database statement or one locked
             section at a time.

  A request looks its friend up, reads the row of the two users, writes it, and then brings the friend
  maps of those who are online in line with it: first the own map, then the other's. The statements
  are not in a transaction, and the two maps have a lock each.
-/
import Rpcn.Session.Data

namespace Rpcn.Friend

open Lib Account
open Session (SharedData ClientSharedInfo)

/-! ## 1. Requests -/

inductive Kind where
  | add
  | remove
  deriving DecidableEq, Repr

structure FriendRequest where
  kind : Kind
  me : ClientInfo
  friendNpid : String
  deriving DecidableEq, Repr

/-- `Result<ErrorType, ErrorType>`: `Err` also where the connection is closed. -/
abbrev Reply := Except ErrorType ErrorType

/-- The statuses that `add_friend` writes; `none` is `DbError::Empty`. -/
def addStatus : Option (UInt8 × UInt8) → Except ErrorType (UInt8 × UInt8)
  | none => .ok (Account.Database.friendStatusFriend, 0)
  | some (statusUser, statusFriend) =>
    if statusUser &&& Account.Database.friendStatusBlocked ≠ 0 ∨
        statusFriend &&& Account.Database.friendStatusBlocked ≠ 0 then .error .blocked
    else if statusUser &&& Account.Database.friendStatusFriend ≠ 0 then .error .alreadyFriend
    else .ok (statusUser ||| Account.Database.friendStatusFriend, statusFriend)

def removeStatus : Option (UInt8 × UInt8) → Except ErrorType (UInt8 × UInt8)
  | none => .error .notFound
  | some (statusUser, statusFriend) =>
    if (statusUser &&& Account.Database.friendStatusFriend) |||
        (statusFriend &&& Account.Database.friendStatusFriend) = 0 then .error .notFound
    else .ok (statusUser &&& ~~~Account.Database.friendStatusFriend,
      statusFriend &&& ~~~Account.Database.friendStatusFriend)

def newStatus : Kind → Option (UInt8 × UInt8) → Except ErrorType (UInt8 × UInt8)
  | .add => addStatus
  | .remove => removeStatus

/-- Are the maps to be changed? `add_friend` does so when it accepts a request of the friend. -/
def touchesMaps : Kind → UInt8 → Bool
  | .add, statusFriend => statusFriend &&& Account.Database.friendStatusFriend != 0
  | .remove, _ => true

/-- The change of a map: an entry for a user. -/
def edit : Kind → UserId → String → ClientSharedInfo → ClientSharedInfo
  | .add, userId, npid, info => { info with friends := info.friends.insert userId npid }
  | .remove, userId, _, info => { info with friends := info.friends.remove userId }

/-! ## 2. Steps -/

inductive FriendPc where
  | received
  | found (friendUserId : UserId)
  | read (friendUserId : UserId) (rel : Option (UInt8 × UInt8))
  | own (friendUserId : UserId)
  | other (friendUserId : UserId)
  | done (reply : Reply)
  deriving DecidableEq

/-- `get_rel_status`, with `DbError::Empty` as `none`. -/
def relOf (db : Account.Database) (userId friendUserId : UserId) :
    Except DbError (Option (UInt8 × UInt8)) :=
  match db.getRelStatus userId friendUserId with
  | .ok rel => .ok (some rel)
  | .error .empty => .ok none
  | .error e => .error e

section Steps

variable (r : FriendRequest) (s : SharedData)

/-- **The steps of a request.** -/
def friendStep : FriendPc → Option (SharedData × FriendPc)
  | .received =>
    match s.db.getUserId r.friendNpid with
    | .error _ => some (s, .done (.ok .notFound))
    | .ok friendUserId =>
      if friendUserId = r.me.userId then some (s, .done (.ok .invalidInput))
      else some (s, .found friendUserId)
  | .found friendUserId =>
    match relOf s.db r.me.userId friendUserId with
    | .error _ => some (s, .done (.error .dbFail))
    | .ok rel =>
      match newStatus r.kind rel with
      | .error e => some (s, .done (.ok e))
      | .ok _ => some (s, .read friendUserId rel)
  | .read friendUserId rel =>
    match newStatus r.kind rel with
    | .error e => some (s, .done (.ok e))
    | .ok (statusUser, statusFriend) =>
      match s.db.setRelStatus r.me.userId friendUserId statusUser statusFriend with
      | .error _ => some (s, .done (.error .dbFail))
      | .ok db =>
        some ({ s with db },
          if touchesMaps r.kind statusFriend then .own friendUserId
          else .done (.ok .noError))
  | .own friendUserId =>
    some ({ s with clientInfos :=
        s.clientInfos.modify r.me.userId (edit r.kind friendUserId r.friendNpid) },
      .other friendUserId)
  | .other friendUserId =>
    some ({ s with clientInfos :=
        s.clientInfos.modify friendUserId (edit r.kind r.me.userId r.me.npid) },
      .done (.ok .noError))
  | .done _ => none

def runSteps : Nat → SharedData → FriendPc → SharedData × FriendPc
  | 0, s, pc => (s, pc)
  | n + 1, s, pc =>
    match friendStep r s pc with
    | none => (s, pc)
    | some (s', pc') => runSteps n s' pc'

end Steps

/-- The reply of a request, settled once the row is written. -/
def FriendPc.reply : FriendPc → Option Reply
  | .own _ => some (.ok .noError)
  | .other _ => some (.ok .noError)
  | .done reply => some reply
  | _ => none

/-- **A request on its own.** -/
def FriendRequest.serve (s : SharedData) (r : FriendRequest) : Reply × SharedData :=
  let x := runSteps r 5 s .received
  (x.2.reply.getD (.error .dbFail), x.1)

/-! ## 3. The request as a whole -/

/-- Both maps, as far as their users are online. -/
def bothMaps (r : FriendRequest) (friendUserId : UserId) (s : SharedData) : SharedData :=
  { s with
    clientInfos :=
      (s.clientInfos.modify r.me.userId (edit r.kind friendUserId r.friendNpid)).modify
        friendUserId (edit r.kind r.me.userId r.me.npid) }

/-- The state after the write, and after the maps where they are to be changed. -/
def afterWrite (r : FriendRequest) (friendUserId : UserId) (statusFriend : UInt8) (s : SharedData)
    (db : Account.Database) : SharedData :=
  if touchesMaps r.kind statusFriend then bothMaps r friendUserId { s with db } else { s with db }

inductive Effect (s : SharedData) (r : FriendRequest) : Reply → SharedData → Prop where
  | unknown (e : DbError) (hv : s.db.getUserId r.friendNpid = .error e) :
      Effect s r (.ok .notFound) s
  | self (hv : s.db.getUserId r.friendNpid = .ok r.me.userId) : Effect s r (.ok .invalidInput) s
  | unread (v : UserId) (e : DbError) (hv : s.db.getUserId r.friendNpid = .ok v)
      (hne : v ≠ r.me.userId) (hrel : relOf s.db r.me.userId v = .error e) :
      Effect s r (.error .dbFail) s
  | refused (v : UserId) (rel : Option (UInt8 × UInt8)) (e : ErrorType)
      (hv : s.db.getUserId r.friendNpid = .ok v) (hne : v ≠ r.me.userId)
      (hrel : relOf s.db r.me.userId v = .ok rel) (hst : newStatus r.kind rel = .error e) :
      Effect s r (.ok e) s
  | unwritten (v : UserId) (rel : Option (UInt8 × UInt8)) (su sf : UInt8) (e : DbError)
      (hv : s.db.getUserId r.friendNpid = .ok v) (hne : v ≠ r.me.userId)
      (hrel : relOf s.db r.me.userId v = .ok rel) (hst : newStatus r.kind rel = .ok (su, sf))
      (hdb : s.db.setRelStatus r.me.userId v su sf = .error e) : Effect s r (.error .dbFail) s
  | written (v : UserId) (rel : Option (UInt8 × UInt8)) (su sf : UInt8) (db : Account.Database)
      (hv : s.db.getUserId r.friendNpid = .ok v) (hne : v ≠ r.me.userId)
      (hrel : relOf s.db r.me.userId v = .ok rel) (hst : newStatus r.kind rel = .ok (su, sf))
      (hdb : s.db.setRelStatus r.me.userId v su sf = .ok db) :
      Effect s r (.ok .noError) (afterWrite r v sf s db)

variable {v : UserId}

section Whole

variable {r : FriendRequest} {s s' : SharedData} {pc pc' : FriendPc}

theorem runSteps_some (h : friendStep r s pc = some (s', pc')) (n : Nat) :
    runSteps r (n + 1) s pc = runSteps r n s' pc' := by
  simp only [runSteps, h]

theorem runSteps_done (reply : Reply) (n : Nat) :
    runSteps r n s (.done reply) = (s, .done reply) := by
  cases n <;> rfl

theorem runSteps_own (v : UserId) (n : Nat) :
    runSteps r (n + 2) s (.own v) = (bothMaps r v s, .done (.ok .noError)) :=
  runSteps_done (.ok .noError) n

theorem friendStep_found (hv : s.db.getUserId r.friendNpid = .ok v) (hne : v ≠ r.me.userId) :
    friendStep r s .received = some (s, .found v) := by
  simp only [friendStep, hv, if_neg hne]

theorem friendStep_read {rel : Option (UInt8 × UInt8)} {st : UInt8 × UInt8}
    (hrel : relOf s.db r.me.userId v = .ok rel) (hst : newStatus r.kind rel = .ok st) :
    friendStep r s (.found v) = some (s, .read v rel) := by
  simp only [friendStep, hrel, hst]

theorem Effect.serve {reply : Reply} (h : Effect s r reply s') : r.serve s = (reply, s') := by
  have hrun : runSteps r 5 s .received = (s', .done reply) := by
    cases h with
    | unknown e hv => rw [runSteps_some (by rw [friendStep, hv]), runSteps_done]
    | self hv => rw [runSteps_some (by simp only [friendStep, hv, if_true]; rfl), runSteps_done]
    | unread v e hv hne hrel =>
      rw [runSteps_some (friendStep_found hv hne), runSteps_some (by rw [friendStep, hrel]),
        runSteps_done]
    | refused v rel e hv hne hrel hst =>
      rw [runSteps_some (friendStep_found hv hne),
        runSteps_some (by simp only [friendStep, hrel, hst]; rfl), runSteps_done]
    | unwritten v rel su sf e hv hne hrel hst hdb =>
      rw [runSteps_some (friendStep_found hv hne), runSteps_some (friendStep_read hrel hst),
        runSteps_some (by simp only [friendStep, hst, hdb]; rfl), runSteps_done]
    | written v rel su sf db hv hne hrel hst hdb =>
      rw [runSteps_some (friendStep_found hv hne), runSteps_some (friendStep_read hrel hst),
        runSteps_some (by simp only [friendStep, hst, hdb]; rfl)]
      unfold afterWrite
      split
      · exact runSteps_own v 0
      · exact runSteps_done _ _
  unfold FriendRequest.serve
  rw [hrun]
  rfl

theorem serve_effect (s : SharedData) (r : FriendRequest) :
    Effect s r (r.serve s).1 (r.serve s).2 := by
  have total : ∃ reply s', Effect s r reply s' := by
    cases hv : s.db.getUserId r.friendNpid with
    | error e => exact ⟨_, _, .unknown e hv⟩
    | ok v =>
      by_cases hne : v = r.me.userId
      · exact ⟨_, _, .self (hne ▸ hv)⟩
      cases hrel : relOf s.db r.me.userId v with
      | error e => exact ⟨_, _, .unread v e hv hne hrel⟩
      | ok rel =>
        cases hst : newStatus r.kind rel with
        | error e => exact ⟨_, _, .refused v rel e hv hne hrel hst⟩
        | ok st =>
          cases hdb : s.db.setRelStatus r.me.userId v st.1 st.2 with
          | error e => exact ⟨_, _, .unwritten v rel st.1 st.2 e hv hne hrel hst hdb⟩
          | ok db => exact ⟨_, _, .written v rel st.1 st.2 db hv hne hrel hst hdb⟩
  obtain ⟨reply, s', h⟩ := total
  rw [h.serve]
  exact h

end Whole

end Rpcn.Friend
