/-
  File:      Rpcn/Session/Ban.lean
  Subject:   A BAN AND THE SESSIONS OF THE BANNED USER.

  A login reads `banned` with `check_user`, outside the lock, and is published later; a ban writes
  the column, looks into `client_infos` once, and kicks what it finds. A login that was checked
  before the column was written and is published after the look is found by nobody.
-/
import Rpcn.Session.Exclusion

namespace Rpcn.Session

open Lib Account

/-- No login of the user is between its check and its publication. -/
def NoneInFlight (p : Pool SharedData Task) (u : UserId) : Prop :=
  ∀ (j : Nat) (x : Task), p.tasks[j]? = some x → x.inFlight ≠ some u

def Looked (es : List (SessionOp × Event)) (u : UserId) : Prop := ∃ op, (op, .looked u) ∈ es

/-- **A completed ban has taken effect**: whoever is registered as a banned user was kicked. -/
def Kicked (es : List (SessionOp × Event)) (p : Pool SharedData Task) : Prop :=
  ∀ u, Looked es u → ∀ info, p.shared.clientInfos.get? u = some info →
    info.kickNotify ∈ p.shared.notified

/-- If the step is the look of a ban, no login of its user is in flight. -/
def LookGuard (cfg : Config) (p : Pool SharedData Task) (op : SessionOp) : Prop :=
  ∀ u p', serve cfg p op = some (.looked u, p') → NoneInFlight p u

/-! ## 1. Steps -/

variable {u : UserId}

section Steps

variable {s s' : SharedData} {i : Nat} {e : Event} {t t' : Task}

theorem Move.carried (hm : Move s i t e s' t') : Database.Carried s.db s'.db := by
  cases hm with
  | quiet w db _ hw hdb hst => exact hdb.toCarried
  | deleted users _ hh hu hst => exact Database.deleteAccounts_carried s.db users
  | looked u _ hw hb hst =>
    unfold SharedData.kick
    split <;> exact (Database.Unharmed.refl s.db).toCarried
  | _ => exact (Database.Unharmed.refl s.db).toCarried

theorem Move.kicked (hm : Move s i t e s' t') (hfl : t.inFlight ≠ some u)
    (h : ∀ info, s.clientInfos.get? u = some info → info.kickNotify ∈ s.notified) :
    ∀ info, s'.clientInfos.get? u = some info → info.kickNotify ∈ s'.notified := by
  cases hm with
  | published v friends _ hv h0 h1 =>
    intro info hinfo
    rw [HashMap.get?_insert, if_neg] at hinfo
    · exact h info hinfo
    · intro huv
      rw [huv] at hfl
      exact hfl (Task.loginFrom_mono hv (Nat.zero_le 6))
  | removedInfo v _ hw h0 hs h1 =>
    intro info hinfo
    rw [HashMap.get?_remove] at hinfo
    split at hinfo
    · cases hinfo
    · exact h info hinfo
  | looked v _ hw hb hst =>
    unfold SharedData.kick
    split
    · exact fun info hinfo => Finset.mem_insert_of_mem (h info hinfo)
    · exact h
  | _ => exact h

theorem kick_kicked (s : SharedData) (u : UserId) :
    ∀ info, (s.kick u).clientInfos.get? u = some info → info.kickNotify ∈ (s.kick u).notified := by
  unfold SharedData.kick
  split
  · rename_i info₀ h₀
    intro info hinfo
    rw [h₀] at hinfo
    cases hinfo
    exact Finset.mem_insert_self _ _
  · rename_i h₀
    intro info hinfo
    rw [h₀] at hinfo
    cases hinfo

end Steps

/-! ## 2. Runs -/

structure BanDone (p : Pool SharedData Task) (u : UserId) : Prop where
  banned : p.shared.db.Banned u
  noneInFlight : NoneInFlight p u
  kicked : ∀ info, p.shared.clientInfos.get? u = some info → info.kickNotify ∈ p.shared.notified

theorem BanDone.served {p p' : Pool SharedData Task} {e : Event} (h : BanDone p u)
    (hs : Served p e p') : BanDone p' u := by
  cases hs with
  | spawned t ht =>
    refine ⟨h.banned, ?_, h.kicked⟩
    intro j x hj
    rcases Pool.get_spawn hj with hold | ⟨_, rfl⟩
    · exact h.noneInFlight j x hold
    · simp [ht.loginFrom]
  | stepped i t e s' t' hi hst =>
    refine ⟨hst.move.carried.banned h.banned, ?_,
      hst.move.kicked (h.noneInFlight i t hi) h.kicked⟩
    intro j x hj hx
    rcases Pool.get_update hj with ⟨rfl, rfl⟩ | ⟨_, hold⟩
    · rcases hst.flight hx with hfl | rfl
      · exact h.noneInFlight j t hi hfl
      · cases hst.move with
        | checked _ row _ hrow hb hst' =>
          rw [h.banned row hrow] at hb
          cases hb
    · exact h.noneInFlight j x hold hx

theorem banDone_of_look {p p' : Pool SharedData Task} (hs : Served p (.looked u) p')
    (hfl : NoneInFlight p u) : BanDone p' u := by
  cases hs with
  | stepped i t _ s' t' hi hst =>
    have hno : NoneInFlight (p.update i s' t') u := by
      intro j x hj hx
      rcases Pool.get_update hj with ⟨rfl, rfl⟩ | ⟨_, hold⟩
      · rcases hst.flight hx with h | h
        · exact hfl j t hi h
        · cases h
      · exact hfl j x hold hx
    refine ⟨?_, hno, ?_⟩
    · cases hst.move with
      | looked _ _ hw hb hst' => exact hst.move.carried.banned hb
    · cases hst.move with
      | looked _ _ hw hb hst' => exact kick_kicked p.shared u

variable {cfg : Config} {db : Account.Database} {es : List (SessionOp × Event)}
  {p : Pool SharedData Task}

theorem banDone_of_run (h : ((sessionSystem cfg db).restrict (LookGuard cfg)).Run es p) :
    ∀ u, Looked es u → BanDone p u := by
  unfold sessionSystem at h
  refine h.carried_restrict (I := fun es p => ∀ u, Looked es u → BanDone p u) ?_ ?_
  · intro u hu
    obtain ⟨op, hop⟩ := hu
    cases hop
  · intro es p op e p' hrun hguard ih hs u hu
    have hserved := serve_served (sound_of_run hrun) hs
    obtain ⟨op', hop⟩ := hu
    rcases List.mem_append.mp hop with hold | hnew
    · exact (ih u ⟨op', hold⟩).served hserved
    · cases List.mem_singleton.mp hnew
      exact banDone_of_look hserved (hguard u p' hs)

/-- **A ban takes effect** in every run in which no ban looks for a session while a login of its user
    is between `check_user` and `client_infos.insert`. -/
theorem ban_takes_effect (h : ((sessionSystem cfg db).restrict (LookGuard cfg)).Run es p) :
    Kicked es p :=
  fun u hu => (banDone_of_run h u hu).kicked

/-! ## 3. Two orders of the same steps -/

def lookGuard (cfg : Config) (p : Pool SharedData Task) (op : SessionOp) : Bool :=
  match serve cfg p op with
  | some (.looked u, _) => p.tasks.all fun x => x.inFlight != some u
  | _ => true

theorem lookGuard_spec (cfg : Config) (p : Pool SharedData Task) (op : SessionOp)
    (h : lookGuard cfg p op = true) : LookGuard cfg p op := by
  intro u p' hs j x hj hx
  rw [lookGuard, hs] at h
  have := List.all_eq_true.mp h x (List.mem_of_getElem? hj)
  simp [hx] at this

def adminAndUser : Account.Database :=
  withAccount (withAccount (.empty [] []) { plainRow "ada" with admin := true }) (plainRow "bob")

def banOps : List SessionOp := .apiBan "ada" "secret" "bob" :: List.replicate 4 (.next 2 {})

def Event.lookedAt : Event → Option UserId
  | .looked u => some u
  | _ => none

theorem looked_of_any {es : List (SessionOp × Event)}
    (h : es.any (fun e => e.2.lookedAt == some u) = true) : Looked es u := by
  obtain ⟨⟨op, e⟩, hmem, he⟩ := List.any_eq_true.mp h
  cases e with
  | looked v =>
    cases beq_iff_eq.mp he
    exact ⟨op, hmem⟩
  | _ => simp [Event.lookedAt] at he

theorem ban_takes_effect_online :
    ∃ es p info, ((sessionSystem openConfig adminAndUser).restrict (LookGuard openConfig)).Run es p ∧
      Looked es 2 ∧ p.shared.clientInfos.get? 2 = some info ∧
      info.kickNotify ∈ p.shared.notified := by
  have hrun : (System.execute (fun p op => if lookGuard openConfig p op then serve openConfig p op
      else none) ⟨.start adminAndUser, [.cleaner .sleeping]⟩ (loginOps 1 "bob" ++ banOps)).map
        (fun r => (r.1.any (fun e => e.2.lookedAt == some 2), r.2.shared.clientInfos.get? 2)) =
      some (true, some ⟨∅, 1⟩) := by
    decide +kernel
  obtain ⟨r, hr, hfacts⟩ := Option.map_eq_some_iff.mp hrun
  have h := System.Run.start.execute_restrict (lookGuard_spec openConfig) hr
  rw [List.nil_append] at h
  have hl := looked_of_any (congrArg Prod.fst hfacts)
  have hinfo := congrArg Prod.snd hfacts
  exact ⟨r.1, r.2, _, h, hl, hinfo, ban_takes_effect h 2 hl _ hinfo⟩

/-- **A session of a banned user survives**: the login is checked, the ban is recorded and looks for
    a session, and then the login is published. -/
theorem banned_session_survives :
    ∃ es p info, (sessionSystem openConfig adminAndUser).Run es p ∧ Looked es 2 ∧
      p.shared.clientInfos.get? 2 = some info ∧ info.kickNotify ∉ p.shared.notified := by
  have hrun : (runOps adminAndUser ([SessionOp.connect, .request 1 (.login "bob" "" "")] ++ banOps ++
      List.replicate 8 (SessionOp.next 1 {}))).map (fun r => (r.1.any (fun e => e.2.lookedAt == some 2),
        r.2.shared.clientInfos.get? 2, r.2.shared.notified)) =
      some (true, some ⟨∅, 1⟩, ∅) := by
    decide +kernel
  obtain ⟨r, hr, hfacts⟩ := Option.map_eq_some_iff.mp hrun
  have hl := looked_of_any (congrArg Prod.fst hfacts)
  have hinfo := congrArg (fun f => f.2.1) hfacts
  have hnot : r.2.shared.notified = ∅ := congrArg (fun f => f.2.2) hfacts
  refine ⟨r.1, r.2, _, run_of_runOps hr, hl, hinfo, ?_⟩
  rw [hnot]
  exact Finset.notMem_empty _

end Rpcn.Session
