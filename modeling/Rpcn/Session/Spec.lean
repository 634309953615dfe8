/-
  File:      Rpcn/Session/Spec.lean
  Subject:   WHAT ONE STEP OF A TASK ESTABLISHES, AND WHAT IT CAN DO TO THE OTHERS.

  * `Ok` -- the assertion of a task: what it has found out is still so;
  * `Move` -- everything a step can do to the shared state, with the change of the task's standing.
    Every result about whole runs is a case analysis over it.
-/
import Rpcn.Account.Spec
import Rpcn.Session.Steps

namespace Rpcn.Session

open Lib Account

/-! ## 1. Observers -/

def LoginPc.stage : LoginPc → Nat
  | .checked => 0
  | .entered => 1
  | .absent => 2
  | .cleared => 3
  | .known => 4
  | .related _ => 5
  | .stamped _ => 6
  | .published => 7

def DeletePc.stage : DeletePc → Nat
  | .checked => 0
  | .entered => 1
  | .absent => 2
  | .prepared => 3
  | .nameHashed => 4
  | .emailHashed => 5

def CleanerPc.stale : CleanerPc → Finset UserId
  | .sleeping => ∅
  | .entered => ∅
  | .selected stale => stale
  | .unstamped stale => stale
  | .unfriended stale => stale

namespace Task

/-- The users that the task, holding the lock, has not found in `client_infos`. -/
def absentees : Task → Finset UserId
  | .client _ (.login pc userId _ _) => if 2 ≤ pc.stage ∧ pc.stage ≤ 6 then {userId} else ∅
  | .client _ (.delete pc userId _ _) => if 2 ≤ pc.stage then {userId} else ∅
  | .cleaner pc => pc.stale
  | _ => ∅

/-- The user that a login, past some stage, is for. -/
def loginFrom (n : Nat) : Task → Option UserId
  | .client _ (.login pc userId _ _) => if n ≤ pc.stage ∧ pc.stage ≤ 6 then some userId else none
  | _ => none

/-- The user that a login has checked and not published yet. -/
abbrev inFlight (t : Task) : Option UserId := t.loginFrom 0

def loginName : Task → Option String
  | .client _ (.login _ _ login _) => some login
  | _ => none

/-- The user a ban has recorded and not looked for yet. -/
def recorded : Task → Option UserId
  | .client _ (.ban (.recorded userId)) => some userId
  | .api (.ban (.recorded userId)) => some userId
  | _ => none

/-- The user the task is logged in as, or cleans up after. -/
def session : Task → Option UserId
  | .client c _ => if c.authentified then some c.userId else none
  | .cleanup c _ => some c.userId
  | _ => none

/-- The user whose entry in `client_infos` is this task's. -/
def registered : Task → Option UserId
  | .client c _ => if c.authentified then some c.userId else none
  | .cleanup c (.clean _) => some c.userId
  | .cleanup c .uncounted => some c.userId
  | _ => none

/-- The user that is in `cleanup_duty` for this task. -/
def onDuty : Task → Option UserId
  | .cleanup c _ => some c.userId
  | _ => none

/-- Has the session been counted in `num_users`, and not been taken off again? -/
def counted : Task → Bool
  | .client _ (.login _ _ _ _) => false
  | .client c _ => c.authentified
  | .cleanup _ (.clean _) => true
  | _ => false

def playing : Task → Option ComId
  | .client _ (.switchGame _) => none
  | .client c _ => c.currentGame.1
  | .cleanup c _ => c.currentGame.1
  | _ => none

def ticketing : Task → Option String
  | .client _ (.switchTicket _) => none
  | .client c _ => c.currentGame.2
  | .cleanup c _ => c.currentGame.2
  | _ => none

end Task

structure Standing where
  session : Option UserId := none
  registered : Option UserId := none
  onDuty : Option UserId := none
  counted : Bool := false
  playing : Option ComId := none
  ticketing : Option String := none

def Task.standing (t : Task) : Standing :=
  ⟨t.session, t.registered, t.onDuty, t.counted, t.playing, t.ticketing⟩

/-! ## 2. Assertions -/

/-- What `clean_user_state` has taken back. -/
def CleanPc.Placed (c : Client) : CleanPc → Prop
  | .psnDone => c.currentGame.1 = none
  | .returned => c.currentGame = (none, none)
  | _ => True

/-- **What a place says about the client itself.** -/
def Task.Placed : Task → Prop
  | .client c .idle => c.authentified = false → c.currentGame = (none, none)
  | .client c (.login pc userId _ _) =>
    c.currentGame = (none, none) ∧ c.authentified = decide (pc.stage = 7) ∧
      (pc.stage = 7 → c.userId = userId)
  | .client c (.delete _ _ _ _) => c.authentified = false → c.currentGame = (none, none)
  | .client c (.switchGame comId) => c.authentified = true ∧ c.currentGame.1 = some comId
  | .client c (.switchTicket serviceId) => c.authentified = true ∧ c.currentGame.2 = some serviceId
  | .client c (.resetState pc) => c.authentified = true ∧ pc.Placed c
  | .client c (.delUser _ _) => c.authentified = true
  | .client c (.ban _) => c.authentified = true
  | .cleanup c (.clean pc) => pc.Placed c
  | .cleanup c _ => c.currentGame = (none, none)
  | _ => True

structure Ok (s : SharedData) (i : Nat) (t : Task) : Prop where
  placed : t.Placed
  lock : t.holds = true → s.writer = some i
  entry : ∀ {u : UserId}, t.registered = some u →
    ∃ info, s.clientInfos.get? u = some info ∧ info.kickNotify = i
  duty : ∀ {u : UserId}, t.onDuty = some u → u ∈ s.cleanupDuty
  absent : ∀ {u : UserId}, u ∈ t.absentees → s.clientInfos.get? u = none
  cleared : ∀ {u : UserId}, t.loginFrom 3 = some u → u ∉ s.cleanupDuty
  named : ∀ {u v : UserId} {login : String} {a : AccountRow}, t.inFlight = some u →
    t.loginName = some login → s.db.account.get? v = some a → a.username = login → v = u
  known : ∀ {u : UserId}, t.loginFrom 4 = some u → u ∈ s.db.account.keys
  stamped : ∀ {u : UserId}, t.loginFrom 6 = some u → s.db.LoggedIn u
  banned : ∀ {u : UserId}, t.recorded = some u → s.db.Banned u

variable {t : Task} {u : UserId}

theorem Task.loginFrom_mono {m n : Nat} (h : t.loginFrom n = some u) (hmn : m ≤ n) :
    t.loginFrom m = some u := by
  unfold loginFrom at h ⊢
  split at h
  · split at h
    · rename_i hc
      rw [if_pos ⟨le_trans hmn hc.1, hc.2⟩]
      exact h
    · cases h
  · cases h

theorem Task.mem_absentees_of_loginFrom (h : t.loginFrom 2 = some u) : u ∈ t.absentees := by
  unfold loginFrom at h
  split at h
  · split at h
    · rename_i hc
      cases h
      simp [absentees, hc]
    · cases h
  · cases h

theorem Task.holds_of_absentees (h : u ∈ t.absentees) : t.holds = true := by
  unfold absentees at h
  split at h
  · rename_i pc userId _ _
    cases pc <;> simp [LoginPc.stage, holds] at h ⊢
  · rename_i pc userId _ _
    cases pc <;> simp [DeletePc.stage, holds] at h ⊢
  · rename_i pc
    cases pc <;> simp [CleanerPc.stale, holds] at h ⊢
  · simp at h

/-! ## 3. Moves -/

inductive LockChange (t : Task) (i : Nat) (w : Option Nat) : Option Nat → Prop where
  | same : LockChange t i w w
  | taken (h : w = none) : LockChange t i w (some i)
  | freed (h : t.holds = true) : LockChange t i w none

inductive Move (s : SharedData) (i : Nat) (t : Task) : Event → SharedData → Task → Prop where
  | quiet (w : Option Nat) (db : Account.Database) (t' : Task) (hw : LockChange t i s.writer w)
      (hdb : Database.Unharmed s.db db) (hst : t'.standing = t.standing) :
      Move s i t .silent { s with writer := w, db := db } t'
  | deleted (users : Finset UserId) (t' : Task) (hh : t.holds = true) (hu : users ⊆ t.absentees)
      (hst : t'.standing = t.standing) :
      Move s i t .silent { s with writer := none, db := s.db.deleteAccounts users } t'
  | checked (u : UserId) (row : AccountRow) (t' : Task) (hrow : s.db.account.get? u = some row)
      (hb : row.banned = false) (hst : t'.standing = t.standing) : Move s i t (.checked i u) s t'
  | published (u : UserId) (friends : HashMap UserId String) (t' : Task)
      (hfl : t.loginFrom 6 = some u) (h0 : t.standing = {})
      (h1 : t'.standing = { session := some u, registered := some u }) :
      Move s i t (.loggedIn i u)
        { s with clientInfos := s.clientInfos.insert u ⟨friends, i⟩ } t'
  | counted (t' : Task) (hh : t.holds = true) (h0 : t.counted = false)
      (h1 : t'.standing = { t.standing with counted := true }) :
      Move s i t .silent
        { s with writer := none, gameTracker := s.gameTracker.increaseNumUsers } t'
  | plays (comId : ComId) (t' : Task) (h0 : t.playing = none)
      (h1 : t'.standing = { t.standing with playing := some comId }) :
      Move s i t .silent { s with gameTracker := s.gameTracker.increaseCountPsn comId } t'
  | stops (comId : ComId) (t' : Task) (h0 : t.playing = some comId)
      (h1 : t'.standing = { t.standing with playing := none }) :
      Move s i t .silent { s with gameTracker := s.gameTracker.decreaseCountPsn comId } t'
  | buys (serviceId : String) (t' : Task) (h0 : t.ticketing = none)
      (h1 : t'.standing = { t.standing with ticketing := some serviceId }) :
      Move s i t .silent { s with gameTracker := s.gameTracker.increaseCountTicket serviceId } t'
  | returns (serviceId : String) (t' : Task) (h0 : t.ticketing = some serviceId)
      (h1 : t'.standing = { t.standing with ticketing := none }) :
      Move s i t .silent { s with gameTracker := s.gameTracker.decreaseCountTicket serviceId } t'
  | dropped (u : UserId) (t' : Task) (h0 : t.registered = some u)
      (h1 : t'.standing = { t.standing with onDuty := some u }) :
      Move s i t .silent { s with cleanupDuty := insert u s.cleanupDuty } t'
  | uncounted (t' : Task) (h0 : t.counted = true)
      (h1 : t'.standing = { t.standing with counted := false }) :
      Move s i t .silent { s with gameTracker := s.gameTracker.decreaseNumUsers } t'
  | removedInfo (u : UserId) (t' : Task) (hw : s.writer = none) (h0 : t.registered = some u)
      (hs : t.session = some u) (h1 : t'.standing = { t.standing with registered := none }) :
      Move s i t (.removedInfo i u) { s with clientInfos := s.clientInfos.remove u } t'
  | offDuty (u : UserId) (t' : Task) (h0 : t.standing = { session := some u, onDuty := some u })
      (h1 : t'.standing = {}) :
      Move s i t (.offDuty i u) { s with cleanupDuty := s.cleanupDuty.erase u } t'
  | looked (u : UserId) (t' : Task) (hw : s.writer = none) (hb : s.db.Banned u)
      (hst : t'.standing = t.standing) : Move s i t (.looked u) (s.kick u) t'
  | roomCall (cinfo : ClientInfo) (op : RoomOp) (t' : Task) (hs : t.session = some cinfo.userId)
      (hop : RoomOp.MadeBy cinfo op) (hst : t'.standing = t.standing) :
      Move s i t (s.callRoom i cinfo.userId op).1 (s.callRoom i cinfo.userId op).2 t'
  | guiCall (cinfo : ClientInfo) (op : GuiOp) (t' : Task) (hs : t.session = some cinfo.userId)
      (hop : GuiOp.MadeBy cinfo op) (hp : op.Possible s.guiRoomManager)
      (hst : t'.standing = t.standing) :
      Move s i t (s.callGui i cinfo.userId op).1 (s.callGui i cinfo.userId op).2 t'

variable {s : SharedData} {i : Nat} {t' : Task}

theorem Move.inner (hst : t'.standing = t.standing) : Move s i t .silent s t' :=
  .quiet s.writer s.db t' .same (.refl _) hst

structure Stepped (s : SharedData) (i : Nat) (t : Task) (e : Event) (s' : SharedData) (t' : Task) :
    Prop where
  ok : Ok s' i t'
  move : Move s i t e s' t'
  flight : ∀ {u : UserId}, t'.inFlight = some u → t.inFlight = some u ∨ e = .checked i u

structure Task.Calm (t : Task) : Prop where
  holds : t.holds = false
  absentees : t.absentees = ∅
  inFlight : t.inFlight = none

structure Task.Plain (t : Task) : Prop extends Task.Calm t where
  recorded : t.recorded = none

theorem Task.Calm.loginFrom (h : t.Calm) (n : Nat) : t.loginFrom n = none := by
  cases hn : t.loginFrom n with
  | none => rfl
  | some u => exact (Task.loginFrom_mono hn (Nat.zero_le n)).symm.trans h.inFlight

variable {s' : SharedData}

theorem Ok.calm (h : Ok s i t) (ht' : t'.Calm) (hp : t'.Placed)
    (hr : t'.registered = t.registered) (hd : t'.onDuty = t.onDuty)
    (hi : s'.clientInfos = s.clientInfos) (hc : s'.cleanupDuty = s.cleanupDuty)
    (hb : ∀ u, t'.recorded = some u → s'.db.Banned u) : Ok s' i t' where
  placed := hp
  lock hh := by simp [ht'.holds] at hh
  entry hu := by
    rw [hr] at hu
    rw [hi]
    exact h.entry hu
  duty hu := by
    rw [hd] at hu
    rw [hc]
    exact h.duty hu
  absent hu := by simp [ht'.absentees] at hu
  cleared hu := by simp [ht'.loginFrom] at hu
  named hu := by simp [ht'.loginFrom] at hu
  known hu := by simp [ht'.loginFrom] at hu
  stamped hu := by simp [ht'.loginFrom] at hu
  banned hu := hb _ hu

theorem Ok.plain (h : Ok s i t) (ht' : t'.Plain) (hp : t'.Placed)
    (hr : t'.registered = t.registered) (hd : t'.onDuty = t.onDuty)
    (hi : s'.clientInfos = s.clientInfos) (hc : s'.cleanupDuty = s.cleanupDuty) : Ok s' i t' :=
  h.calm ht'.toCalm hp hr hd hi hc fun u hu => by simp [ht'.recorded] at hu

variable (c : Client)

theorem plain_idle : (Task.client c .idle).Plain := ⟨⟨rfl, rfl, rfl⟩, rfl⟩

theorem plain_gone : Task.gone.Plain := ⟨⟨rfl, rfl, rfl⟩, rfl⟩

theorem plain_cleanup (pc : CleanupPc) : (Task.cleanup c pc).Plain :=
  ⟨⟨rfl, rfl, rfl⟩, rfl⟩

theorem plain_sleeping : (Task.cleaner .sleeping).Plain := ⟨⟨rfl, rfl, rfl⟩, rfl⟩

theorem plain_resume : c.resume.Plain := by
  unfold Client.resume
  split
  · exact plain_idle c
  · exact plain_gone

theorem placed_idle {c : Client} (hauth : c.authentified = true) : (Task.client c .idle).Placed :=
  fun hf => (Bool.false_ne_true (hf.symm.trans hauth)).elim

theorem placed_resume : c.resume.Placed := by
  unfold Client.resume
  split
  · exact placed_idle (by assumption)
  · trivial

theorem stepped_plain (h : Ok s i t) (ht' : t'.Plain) (hp : t'.Placed)
    (hst : t'.standing = t.standing) {w : Option Nat} {db : Account.Database}
    (hw : LockChange t i s.writer w) (hdb : Database.Unharmed s.db db) :
    Stepped s i t .silent { s with writer := w, db := db } t' where
  ok := h.plain ht' hp (congrArg Standing.registered hst) (congrArg Standing.onDuty hst) rfl rfl
  move := .quiet w db t' hw hdb hst
  flight hu := by simp [ht'.inFlight] at hu

theorem stepped_within (h : Ok s i t) (ht' : t'.Plain) (hp : t'.Placed)
    (hst : t'.standing = t.standing) : Stepped s i t .silent s t' :=
  stepped_plain h ht' hp hst .same (.refl s.db)

end Rpcn.Session
