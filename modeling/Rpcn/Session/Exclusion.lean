/-
  File:      Rpcn/Session/Exclusion.lean
  Subject:   ONE SESSION PER USER, across disconnects that race with logins.

  A session ends in two sets that no common lock guards: its user enters `cleanup_duty` before the
  cleanup starts and leaves it after the cleanup's last step, and the entry in `client_infos` goes
  in between. A login looks into both, in the other order. `Sound` says that this suffices; here it
  is read off what was done in a run.
-/
import Rpcn.Session.Sound

namespace Rpcn.Session

open Lib Account

/-! ## 1. What is done as a user -/

def Event.doneAs : Event → Option (Nat × UserId)
  | .loggedIn i u => some (i, u)
  | .roomCall i u _ _ => some (i, u)
  | .guiCall i u _ _ => some (i, u)
  | .removedInfo i u => some (i, u)
  | .offDuty i u => some (i, u)
  | _ => none

variable {u : UserId}

theorem Move.doneAs {s s' : SharedData} {i j : Nat} {t t' : Task} {e : Event}
    (hm : Move s i t e s' t') (h : e.doneAs = some (j, u)) :
    j = i ∧ (t.session = some u ∨ t'.session = some u) := by
  cases hm with
  | published v friends _ hfl h0 h1 =>
    cases h
    exact ⟨rfl, Or.inr (congrArg Standing.session h1)⟩
  | removedInfo v _ hw h0 hs h1 =>
    cases h
    exact ⟨rfl, Or.inl hs⟩
  | offDuty v _ h0 h1 =>
    cases h
    exact ⟨rfl, Or.inl (congrArg Standing.session h0)⟩
  | roomCall cinfo op _ hs hop hst =>
    cases h
    exact ⟨rfl, Or.inl hs⟩
  | guiCall cinfo op _ hs hop hp hst =>
    cases h
    exact ⟨rfl, Or.inl hs⟩
  | _ => cases h

/-- **Task `i` logged in as `u`, and nobody else did anything as `u` since.** -/
def LastLogin (es : List (SessionOp × Event)) (i : Nat) (u : UserId) : Prop :=
  ∃ es₁ op es₂, es = es₁ ++ (op, .loggedIn i u) :: es₂ ∧
    ∀ e ∈ es₂, ∀ j, e.2.doneAs = some (j, u) → j = i

theorem LastLogin.now (es : List (SessionOp × Event)) (op : SessionOp) (i : Nat) (u : UserId) :
    LastLogin (es ++ [(op, .loggedIn i u)]) i u :=
  ⟨es, op, [], rfl, fun _ h => by cases h⟩

theorem LastLogin.snoc {es : List (SessionOp × Event)} {i : Nat} {u : UserId}
    (h : LastLogin es i u) (op : SessionOp) {e : Event}
    (he : ∀ j, e.doneAs = some (j, u) → j = i) : LastLogin (es ++ [(op, e)]) i u := by
  obtain ⟨es₁, op₁, es₂, rfl, hes⟩ := h
  refine ⟨es₁, op₁, es₂ ++ [(op, e)], by simp, ?_⟩
  intro x hx
  rcases List.mem_append.mp hx with hx | hx
  · exact hes x hx
  · rw [List.mem_singleton.mp hx]
    exact he

/-! ## 2. Runs -/

section Runs

variable {cfg : Config} {db : Account.Database} {es : List (SessionOp × Event)}
  {p : Pool SharedData Task}

theorem lastLogin_of_run (h : (sessionSystem cfg db).Run es p) {i : Nat} {t : Task}
    (hi : p.tasks[i]? = some t) (hu : t.session = some u) : LastLogin es i u := by
  refine run_induction (I := fun es p => ∀ i t u, p.tasks[i]? = some t → t.session = some u →
    LastLogin es i u) ?_ ?_ h i t u hi hu
  · intro i t u hi hu
    cases i with
    | zero =>
      cases hi
      cases hu
    | succ i => simp at hi
  · intro es p op e p' hsound hserved ih
    have hsound' := hsound.served hserved
    cases hserved with
    | spawned t₀ ht₀ =>
      intro i t u hi hu
      rcases Pool.get_spawn hi with hold | ⟨_, rfl⟩
      · exact (ih i t u hold hu).snoc op fun j hj => by cases hj
      · have : t.session = none := congrArg Standing.session ht₀.standing
        rw [hu] at this
        cases this
    | stepped k t₀ e s' t₁ hk hst =>
      intro i t u hi hu
      rcases Pool.get_update hi with ⟨rfl, rfl⟩ | ⟨hne, hold⟩
      · -- the task that moved: it had the session, or logs in now
        rcases hst.move.session hu with hu₀ | rfl
        · exact (ih i t₀ u hk hu₀).snoc op fun j hj => (hst.move.doneAs hj).1
        · exact .now es op i u
      · -- another task: what was done now was not done as its user
        refine (ih i t u hold hu).snoc op fun j hj => ?_
        obtain ⟨rfl, hsess⟩ := hst.move.doneAs hj
        rcases hsess with h₀ | h₁
        · exact hsound.apart j i t₀ t u hk hold h₀ hu
        · exact hsound'.apart j i t₁ t u (Pool.get_update_self hk) hi h₁ hu

/-- **One session per user.** At any time: two authenticated clients of the same user are the same
    one; whoever has a session of a user, as a client or as the cleanup after it, is the last to have
    logged in as that user, and all that was done as the user since was done by this task. So no
    session is later than one whose cleanup still has a step to make. The entry that this cleanup is
    to remove is that of its own session. -/
theorem one_session_per_user (h : (sessionSystem cfg db).Run es p) :
    (∀ (i j : Nat) (c d : Client) (jobC jobD : Job), p.tasks[i]? = some (.client c jobC) →
      p.tasks[j]? = some (.client d jobD) → c.authentified = true → d.authentified = true →
      c.userId = d.userId → i = j) ∧
    (∀ (i : Nat) (c : Client) (job : Job), p.tasks[i]? = some (.client c job) →
      c.authentified = true → LastLogin es i c.userId) ∧
    (∀ (i : Nat) (c : Client) (pc : CleanupPc), p.tasks[i]? = some (.cleanup c pc) →
      LastLogin es i c.userId ∧
      ((∃ pc', pc = .clean pc') ∨ pc = .uncounted →
        ∃ info, p.shared.clientInfos.get? c.userId = some info ∧ info.kickNotify = i)) := by
  have hs := sound_of_run h
  have live : ∀ {c : Client} (job : Job), c.authentified = true →
      (Task.client c job).session = some c.userId := fun job hc => by simp [Task.session, hc]
  refine ⟨?_, ?_, ?_⟩
  · intro i j c d jobC jobD hi hj hc hd hu
    exact hs.apart i j _ _ c.userId hi hj (live jobC hc) (hu ▸ live jobD hd)
  · intro i c job hi hc
    exact lastLogin_of_run h hi (live job hc)
  · intro i c pc hi
    refine ⟨lastLogin_of_run h hi rfl, ?_⟩
    intro hpc
    refine (hs.ok i _ hi).entry ?_
    rcases hpc with ⟨pc', rfl⟩ | rfl <;> rfl

/-- **No session without an account.** In any interleaving of logins, cleanups, deletions by users
    and administrators and the cleaner, whoever is in `client_infos` has a row in `account`. -/
theorem session_has_account (h : (sessionSystem cfg db).Run es p) {u : UserId}
    {info : ClientSharedInfo} (hu : p.shared.clientInfos.get? u = some info) :
    ∃ row, p.shared.db.account.get? u = some row :=
  HashMap.mem_keys.mp ((sound_of_run h).rows u info hu).1

end Runs

/-! ## 3. Runs of two users -/

def plainRow (username : String) : AccountRow where
  username := username
  hash := []
  salt := []
  onlineName := username
  avatarUrl := ""
  email := username
  emailCheck := username
  token := ""
  admin := false
  statAgent := false
  banned := false

def withAccount (db : Account.Database) (row : AccountRow) : Account.Database :=
  ((db.insertAccount row).map (·.2)).getD db

def openConfig : Config := ⟨false, id, fun _ _ => []⟩

def twoAccounts : Account.Database :=
  withAccount (withAccount (.empty [] []) (plainRow "ada")) (plainRow "bob")

def loginOps (i : Nat) (username : String) : List SessionOp :=
  .connect :: .request i (.login username "" "") :: List.replicate 8 (.next i {})

def runOps (db : Account.Database) (ops : List SessionOp) :
    Option (List (SessionOp × Event) × Pool SharedData Task) :=
  System.execute (serve openConfig) ⟨.start db, [.cleaner .sleeping]⟩ ops

theorem run_of_runOps {db : Account.Database} {ops : List SessionOp}
    {r : List (SessionOp × Event) × Pool SharedData Task} (h : runOps db ops = some r) :
    (sessionSystem openConfig db).Run r.1 r.2 := by
  have := System.Run.start.execute h
  rwa [List.nil_append] at this

theorem one_session_per_user_reconnect :
    ∃ es p c, (sessionSystem openConfig twoAccounts).Run es p ∧
      p.tasks[1]? = some (.cleanup c (.clean (.leaving []))) ∧ LastLogin es 1 c.userId := by
  have hrun : (runOps twoAccounts (loginOps 1 "ada" ++
      [SessionOp.drop 1, .next 1 {}, .connect, .request 2 (.login "ada" "" ""), .next 2 {},
        .next 2 {}])).map (fun r => r.2.tasks[1]?) = some (some (.cleanup
          ⟨false, ⟨1, "ada", "ada", ""⟩, false, (none, none)⟩ (.clean (.leaving [])))) := by
    decide +kernel
  obtain ⟨r, hr, ht⟩ := Option.map_eq_some_iff.mp hrun
  have h := run_of_runOps hr
  exact ⟨r.1, r.2, _, h, ht, ((one_session_per_user h).2.2 1 _ _ ht).1⟩

theorem session_has_account_deletion :
    ∃ es p info, (sessionSystem openConfig (withAccount twoAccounts (plainRow "DeletedUser"))).Run es p ∧
      p.shared.db.account.get? 2 = none ∧ p.shared.clientInfos.get? 1 = some info ∧
      ∃ row, p.shared.db.account.get? 1 = some row := by
  have hrun : (runOps (withAccount twoAccounts (plainRow "DeletedUser")) (loginOps 1 "ada" ++
      SessionOp.connect :: .request 2 (.deleteAccount "bob" "") :: List.replicate 6 (.next 2 {}))).map
        (fun r => (r.2.shared.db.account.get? 2, r.2.shared.clientInfos.get? 1)) =
      some (none, some ⟨∅, 1⟩) := by
    decide +kernel
  obtain ⟨r, hr, hfacts⟩ := Option.map_eq_some_iff.mp hrun
  have h := run_of_runOps hr
  have hinfo := congrArg Prod.snd hfacts
  exact ⟨r.1, r.2, _, h, congrArg Prod.fst hfacts, hinfo, session_has_account h hinfo⟩

end Rpcn.Session
