/-
  File:      Rpcn/Session/StepSpec.lean
  Subject:   EVERY STEP OF EVERY PROGRAM IS A `Stepped`: one lemma for each program of
             Session/Steps.lean.

  A login is checked outside the lock and then climbs from stage to stage inside it; `LoginOk` is
  what it knows at each. The others come back to a plain place after a few steps (`stepped_plain`).
-/
import Rpcn.Session.Spec

namespace Rpcn.Session

open Lib Account Task Database

/-! ## 1. Logins -/

variable {job : Job} {w : Option Nat} {db : Account.Database} {ch : Choice}

attribute [local simp] Task.standing Task.session Task.registered Task.onDuty Task.counted
  Task.playing Task.ticketing Task.recorded

section Login

variable {s s' : SharedData} {i : Nat} {c : Client} {u : UserId} {login : String} {row : AccountRow}
  {pc pc' : LoginPc} {e : Event} {t' : Task}

structure LoginOk (s : SharedData) (i : Nat) (c : Client) (u : UserId) (login : String)
    (stage : Nat) : Prop where
  fresh : c.currentGame = (none, none) ∧ c.authentified = false
  lock : 1 ≤ stage → s.writer = some i
  absent : 2 ≤ stage → s.clientInfos.get? u = none
  cleared : 3 ≤ stage → u ∉ s.cleanupDuty
  named : ∀ {v : UserId} {a : AccountRow}, s.db.account.get? v = some a → a.username = login → v = u
  known : 4 ≤ stage → u ∈ s.db.account.keys
  stamped : 6 ≤ stage → s.db.LoggedIn u

theorem loginFrom_login (n : Nat) (hpc : pc.stage ≤ 6) :
    (client c (.login pc u login row)).loginFrom n = if n ≤ pc.stage then some u else none := by
  simp [loginFrom, hpc]

theorem inFlight_login (hpc : pc.stage ≤ 6) :
    (client c (.login pc u login row)).inFlight = some u := by
  simp [loginFrom_login, hpc]

theorem holds_login : (client c (.login pc u login row)).holds = decide (1 ≤ pc.stage) := by
  cases pc <;> rfl

theorem ok_login_iff (hpc : pc.stage ≤ 6) :
    Ok s i (.client c (.login pc u login row)) ↔ LoginOk s i c u login pc.stage := by
  have hne : pc.stage ≠ 7 := by omega
  constructor
  · intro h
    have hp := h.placed
    simp only [Placed, hne, decide_false] at hp
    refine ⟨⟨hp.1, hp.2.1⟩, fun hs => h.lock ?_, fun hs => h.absent ?_, fun hs => h.cleared ?_, ?_,
      fun hs => h.known ?_, fun hs => h.stamped ?_⟩
    · simp [holds_login, hs]
    · simp [absentees, hs, hpc]
    · simp [loginFrom_login, hpc, hs]
    · intro v a ha hn
      exact h.named (by simp [loginFrom_login, hpc]) rfl ha hn
    · simp [loginFrom_login, hpc, hs]
    · simp [loginFrom_login, hpc, hs]
  · intro h
    have hfrom : ∀ {n : Nat} {v : UserId},
        (client c (.login pc u login row)).loginFrom n = some v → n ≤ pc.stage ∧ v = u := by
      intro n v hv
      rw [loginFrom_login n hpc] at hv
      split at hv
      · cases hv
        exact ⟨by assumption, rfl⟩
      · cases hv
    refine ⟨?_, ?_, ?_, ?_, ?_, ?_, ?_, ?_, ?_, ?_⟩
    · simp [Placed, hne, h.fresh]
    · intro hh
      exact h.lock (by simpa [holds_login] using hh)
    · intro v hv
      simp [registered, h.fresh] at hv
    · intro v hv
      simp [onDuty] at hv
    · intro v hv
      simp only [absentees, hpc, and_true] at hv
      split at hv
      · rw [Finset.mem_singleton.mp hv]
        exact h.absent (by assumption)
      · simp at hv
    · intro v hv
      rw [(hfrom hv).2]
      exact h.cleared (hfrom hv).1
    · intro v w l a hv hl ha hn
      cases hl
      rw [(hfrom hv).2]
      exact h.named ha hn
    · intro v hv
      rw [(hfrom hv).2]
      exact h.known (hfrom hv).1
    · intro v hv
      rw [(hfrom hv).2]
      exact h.stamped (hfrom hv).1
    · intro v hv
      simp [recorded] at hv

theorem standing_fresh (hc : c.currentGame = (none, none) ∧ c.authentified = false) :
    (client c job).standing = {} := by
  cases job <;> simp [hc]

theorem resume_of_fresh (hc : c.authentified = false) : c.resume = .gone := by
  simp [Client.resume, hc]

theorem stepped_login (h : LoginOk s i c u login pc.stage) (hpc : pc.stage ≤ 6)
    (hpc' : pc'.stage ≤ 6) (hw : LockChange (.client c (.login pc u login row)) i s.writer w)
    (hdb : Unharmed s.db db)
    (h' : LoginOk { s with writer := w, db := db } i c u login pc'.stage) :
    Stepped s i (.client c (.login pc u login row)) .silent { s with writer := w, db := db }
      (.client c (.login pc' u login row)) where
  ok := (ok_login_iff hpc').mpr h'
  move := .quiet w db _ hw hdb ((standing_fresh h'.fresh).trans (standing_fresh h.fresh).symm)
  flight hv := by
    left
    rw [inFlight_login hpc'] at hv
    rw [inFlight_login hpc, hv]

/-- What a login finds out on its way up from a stage. -/
def Found (s : SharedData) (u : UserId) : Nat → Prop
  | 1 => s.clientInfos.get? u = none
  | 2 => u ∉ s.cleanupDuty
  | 3 => u ∈ s.db.account.keys
  | 5 => s.db.LoggedIn u
  | _ => True

theorem LoginOk.climb {n : Nat} (h : LoginOk s i c u login n) (hn : 1 ≤ n) (hf : Found s u n) :
    LoginOk s i c u login (n + 1) where
  fresh := h.fresh
  lock _ := h.lock hn
  absent hs := (Nat.le_of_lt_succ hs).eq_or_lt.elim (fun e => show Found s u 1 from e ▸ hf) h.absent
  cleared hs := (Nat.le_of_lt_succ hs).eq_or_lt.elim (fun e => show Found s u 2 from e ▸ hf) h.cleared
  named := h.named
  known hs := (Nat.le_of_lt_succ hs).eq_or_lt.elim (fun e => show Found s u 3 from e ▸ hf) h.known
  stamped hs := (Nat.le_of_lt_succ hs).eq_or_lt.elim (fun e => show Found s u 5 from e ▸ hf) h.stamped

theorem stepped_login_gone (hok : Ok s i (.client c (.login pc u login row))) (hpc : pc.stage ≤ 6)
    (hw : LockChange (.client c (.login pc u login row)) i s.writer w) :
    Stepped s i (.client c (.login pc u login row)) .silent { s with writer := w } c.resume := by
  have h := (ok_login_iff hpc).mp hok
  refine stepped_plain hok (plain_resume c) (placed_resume c) ?_ hw (.refl s.db)
  rw [standing_fresh h.fresh, resume_of_fresh h.fresh.2]
  rfl

theorem acquire_some {s' : SharedData} (h : s.acquire i = some s') :
    s.writer = none ∧ s' = { s with writer := some i } := by
  unfold SharedData.acquire at h
  split at h
  · cases h
    exact ⟨by assumption, rfl⟩
  · cases h

theorem freed_login (hpc : 1 ≤ pc.stage) :
    LockChange (.client c (.login pc u login row)) i s.writer none :=
  .freed (by simp [holds_login, hpc])

attribute [local simp] LoginPc.stage Task.loginFrom

theorem loginStep_stepped (hok : Ok s i (.client c (.login pc u login row)))
    (hs : loginStep ch s i c u login row pc = some (e, s', t')) :
    Stepped s i (.client c (.login pc u login row)) e s' t' := by
  cases pc with
  | checked =>
    have h := (ok_login_iff (by decide)).mp hok
    simp only [loginStep, Option.map_eq_some_iff, Prod.mk.injEq] at hs
    obtain ⟨s₁, ha, rfl, rfl, rfl⟩ := hs
    obtain ⟨hw, rfl⟩ := acquire_some ha
    exact stepped_login h (by decide) (by decide) (.taken hw) (.refl s.db)
      ⟨h.fresh, fun _ => rfl, by simp, by simp, h.named, by simp, by simp⟩
  | entered =>
    have h := (ok_login_iff (by decide)).mp hok
    simp only [loginStep] at hs
    split at hs
    · cases hs
      exact stepped_login_gone hok (by decide) (freed_login (by decide))
    · rename_i hno
      cases hs
      exact stepped_login h (by decide) (by decide) .same (.refl s.db)
        (h.climb (by decide) (HashMap.notMem_keys.mp hno))
  | absent =>
    have h := (ok_login_iff (by decide)).mp hok
    simp only [loginStep] at hs
    split at hs
    · cases hs
      exact stepped_login_gone hok (by decide) (freed_login (by decide))
    · rename_i hno
      cases hs
      exact stepped_login h (by decide) (by decide) .same (.refl s.db)
        (h.climb (by decide) hno)
  | cleared =>
    have h := (ok_login_iff (by decide)).mp hok
    simp only [loginStep] at hs
    split at hs
    · cases hs
      exact stepped_login_gone hok (by decide) (freed_login (by decide))
    · rename_i v hv
      cases hs
      -- the name still finds a row, and the only row it can find is the one checked
      obtain ⟨a, ha, hn⟩ := getUserId_ok hv
      have hvu : v = u := h.named ha hn
      exact stepped_login h (by decide) (by decide) .same (.refl s.db)
        (h.climb (by decide) (HashMap.mem_keys.mpr ⟨a, hvu ▸ ha⟩))
  | known =>
    have h := (ok_login_iff (by decide)).mp hok
    simp only [loginStep] at hs
    split at hs
    · cases hs
      exact stepped_login h (by decide) (by simp) .same (.refl s.db)
        (h.climb (by decide) trivial)
    · cases hs
  | related friends =>
    have h := (ok_login_iff (by simp)).mp hok
    cases hs
    have hdb := updateLoginTime_unharmed s.db u ch.timestamp
    have h' : LoginOk { s with db := s.db.updateLoginTime u ch.timestamp } i c u login 5 :=
      { h with known := fun _ => hdb.keys (h.known (by simp)), stamped := by simp }
    exact stepped_login h (by simp) (by simp) .same hdb (h'.climb (by decide)
      (updateLoginTime_loggedIn s.db u ch.timestamp))
  | stamped friends =>
    have h := (ok_login_iff (by simp)).mp hok
    cases hs
    refine ⟨?_, ?_, ?_⟩
    · refine ⟨?_, fun _ => h.lock (by simp), ?_, ?_, ?_, ?_, ?_, ?_, ?_, ?_⟩
      · exact ⟨h.fresh.1, rfl, fun _ => rfl⟩
      · intro v hv
        have hvu : u = v := by simpa [registered, Client.authenticate] using hv
        refine ⟨⟨friends, i⟩, ?_, rfl⟩
        simp [hvu]
      all_goals
        intros
        simp_all [onDuty, absentees, loginFrom, LoginPc.stage, recorded]
    · refine .published u friends _ ?_ (standing_fresh h.fresh) ?_
      · simp
      · simp [Client.authenticate, h.fresh]
    · intro v hv
      simp at hv
  | published =>
    cases hs
    have hauth : c.authentified = true := by simpa [LoginPc.stage] using hok.placed.2.1
    refine ⟨hok.plain (plain_idle c) (placed_idle hauth) rfl rfl rfl rfl, ?_, ?_⟩
    · refine .counted _ rfl rfl ?_
      simp [hauth]
    · intro v hv
      simp at hv

end Login

attribute [local simp] LoginPc.stage Task.loginFrom

/-! ## 2. Deletions -/

variable {cfg : Config}

section Delete

variable {s s' : SharedData} {i : Nat} {c : Client} {u : UserId} {username emailCheck : String}
  {pc pc' : DeletePc} {e : Event} {t' : Task}

theorem holds_delete :
    (client c (.delete pc u username emailCheck)).holds = decide (1 ≤ pc.stage) := by
  cases pc <;> rfl

theorem standing_delete (hp : c.authentified = false → c.currentGame = (none, none)) :
    c.resume.standing = (client c (.delete pc u username emailCheck)).standing := by
  unfold Client.resume
  split
  · rfl
  · rename_i hauth
    have hauth' : c.authentified = false := by simpa using hauth
    exact (standing_fresh ⟨hp hauth', hauth'⟩).symm

theorem stepped_delete (h : Ok s i (.client c (.delete pc u username emailCheck)))
    (hw : LockChange (.client c (.delete pc u username emailCheck)) i s.writer w)
    (hdb : Unharmed s.db db) (hlock : w = some i)
    (habs : 2 ≤ pc'.stage → s.clientInfos.get? u = none) :
    Stepped s i (.client c (.delete pc u username emailCheck)) .silent
      { s with writer := w, db := db } (.client c (.delete pc' u username emailCheck)) where
  ok := by
    refine ⟨h.placed, fun _ => hlock, h.entry, h.duty, ?_, ?_, ?_, ?_, ?_, ?_⟩
    · intro v hv
      simp only [absentees] at hv
      split at hv
      · rw [Finset.mem_singleton.mp hv]
        exact habs (by assumption)
      · simp at hv
    all_goals
      intros
      simp_all [loginFrom, recorded]
  move := .quiet w db _ hw hdb rfl
  flight hv := by simp at hv

theorem stepped_delete_refused (h : Ok s i (.client c (.delete pc u username emailCheck)))
    (hw : LockChange (.client c (.delete pc u username emailCheck)) i s.writer w) :
    Stepped s i (.client c (.delete pc u username emailCheck)) .silent { s with writer := w }
      c.resume :=
  stepped_plain h (plain_resume c) (placed_resume c) (standing_delete h.placed) hw (.refl s.db)

theorem freed_delete (hpc : 1 ≤ pc.stage) :
    LockChange (.client c (.delete pc u username emailCheck)) i s.writer none :=
  .freed (by simp [holds_delete, hpc])

theorem Ok.delete_lock (h : Ok s i (.client c (.delete pc u username emailCheck)))
    (hpc : 1 ≤ pc.stage) : s.writer = some i :=
  h.lock (by simp [holds_delete, hpc])

theorem Ok.delete_absent (h : Ok s i (.client c (.delete pc u username emailCheck)))
    (hpc : 2 ≤ pc.stage) : s.clientInfos.get? u = none :=
  h.absent (by simp [absentees, hpc])

theorem deleteStep_stepped (h : Ok s i (.client c (.delete pc u username emailCheck)))
    (hs : deleteStep cfg ch s i c u username emailCheck pc = some (e, s', t')) :
    Stepped s i (.client c (.delete pc u username emailCheck)) e s' t' := by
  cases pc with
  | checked =>
    simp only [deleteStep, Option.map_eq_some_iff, Prod.mk.injEq] at hs
    obtain ⟨s₁, ha, rfl, rfl, rfl⟩ := hs
    obtain ⟨hw, rfl⟩ := acquire_some ha
    exact stepped_delete h (.taken hw) (.refl s.db) rfl (by simp [DeletePc.stage])
  | entered =>
    simp only [deleteStep] at hs
    split at hs
    · cases hs
      exact stepped_delete_refused h (freed_delete (by decide))
    · rename_i hno
      cases hs
      exact stepped_delete h .same (.refl s.db) (h.delete_lock (by decide))
        fun _ => HashMap.notMem_keys.mp hno
  | absent =>
    simp only [deleteStep] at hs
    split at hs
    · cases hs
      exact stepped_delete_refused h (freed_delete (by decide))
    · split at hs
      · cases hs
        exact stepped_delete_refused h (freed_delete (by decide))
      · cases hs
        exact stepped_delete h .same (.refl s.db) (h.delete_lock (by decide))
          fun _ => h.delete_absent (by decide)
  | prepared =>
    cases hs
    refine stepped_delete h .same ?_ (h.delete_lock (by decide))
      fun _ => h.delete_absent (by decide)
    split
    · exact insertUsernameHash_unharmed _ _ _
    · exact .refl s.db
  | nameHashed =>
    cases hs
    refine stepped_delete h .same ?_ (h.delete_lock (by decide))
      fun _ => h.delete_absent (by decide)
    split
    · exact insertEmailHash_unharmed _ _ _
    · exact .refl s.db
  | emailHashed =>
    cases hs
    have hst : c.resume.standing =
        (client c (.delete .emailHashed u username emailCheck)).standing :=
      standing_delete h.placed
    refine ⟨?_, .deleted {u} _ rfl ?_ hst, ?_⟩
    · exact h.plain (plain_resume c) (placed_resume c) (congrArg Standing.registered hst)
        (congrArg Standing.onDuty hst) rfl rfl
    · simp [absentees, DeletePc.stage]
    · intro v hv
      rw [(plain_resume c).inFlight] at hv
      cases hv

end Delete

/-! ## 3. Bans -/

section Ban

variable {s s' : SharedData} {i : Nat} {e : Event}

theorem banStep_stepped {pc : BanPc} {r : Option BanPc} (hs : banStep s pc = some (e, s', r))
    {t t' : Task} (h : Ok s i t) (hp : t'.Placed) (hst : t'.standing = t.standing)
    (ht' : t'.Calm) (hrec : ∀ u, t'.recorded = some u → r = some (.recorded u))
    (hold : ∀ u, pc = .recorded u → t.recorded = some u) : Stepped s i t e s' t' := by
  have hr := congrArg Standing.registered hst
  have hd := congrArg Standing.onDuty hst
  have hfl : ∀ {u}, t'.inFlight = some u → t.inFlight = some u ∨ e = .checked i u := by
    simp [ht'.loginFrom]
  cases pc with
  | found u =>
    cases hs
    refine ⟨h.calm ht' hp hr hd rfl rfl fun v hv => ?_,
      .quiet s.writer _ t' .same (banUser_unharmed s.db u) hst, hfl⟩
    cases hrec v hv
    exact banUser_banned s.db u
  | recorded u =>
    simp only [banStep] at hs
    split at hs
    · rename_i hw
      cases hs
      have hkick : (s.kick u).clientInfos = s.clientInfos ∧
          (s.kick u).cleanupDuty = s.cleanupDuty := by
        unfold SharedData.kick
        split <;> exact ⟨rfl, rfl⟩
      refine ⟨h.calm ht' hp hr hd hkick.1 hkick.2 fun v hv => ?_,
        .looked u t' hw (h.banned (hold u rfl)) hst, hfl⟩
      cases hrec v hv
    · cases hs

end Ban

/-! ## 4. `clean_user_state` and the cleanup -/

variable {ctx : Client → CleanPc → Task} {st : Standing}

section Clean

variable {s s' : SharedData} {i : Nat} {e : Event} {c c' : Client} {pc pc' : CleanPc}

theorem leaveRoom_cases (s : SharedData) (i : Nat) (u : UserId) (comId : ComId) (roomId : UInt64)
    (random : Nat) : s.leaveRoom i u comId roomId random = (.silent, s) ∨
      s.leaveRoom i u comId roomId random =
        s.callRoom i u (.leaveRoom comId roomId u random) := by
  unfold SharedData.leaveRoom
  split
  · exact Or.inl rfl
  · split
    · exact Or.inl rfl
    · exact Or.inr rfl

structure CleanCtx (ctx : Client → CleanPc → Task) (c : Client) (st : Standing) : Prop where
  session : st.session = some c.userId
  plain : ∀ c' pc, (ctx c' pc).Plain
  placed : ∀ pc, (ctx c pc).Placed → pc.Placed c
  place : ∀ (c' : Client) pc pc', c'.clientInfo = c.clientInfo → c'.authentified = c.authentified →
    (ctx c pc).Placed → pc'.Placed c' → (ctx c' pc').Placed
  standing : ∀ (c' : Client) pc, c'.clientInfo = c.clientInfo → c'.authentified = c.authentified →
    (ctx c' pc).standing =
      { st with playing := c'.currentGame.1, ticketing := c'.currentGame.2 }

theorem CleanCtx.stepped (hctx : CleanCtx ctx c st) (h : Ok s i (ctx c pc))
    (hinfo : c'.clientInfo = c.clientInfo) (hauth : c'.authentified = c.authentified)
    (hpc : pc'.Placed c') (hi : s'.clientInfos = s.clientInfos)
    (hc : s'.cleanupDuty = s.cleanupDuty) (hm : Move s i (ctx c pc) e s' (ctx c' pc')) :
    Stepped s i (ctx c pc) e s' (ctx c' pc') where
  ok := by
    have h0 := hctx.standing c pc rfl rfl
    have h1 := hctx.standing c' pc' hinfo hauth
    refine h.plain (hctx.plain c' pc') (hctx.place c' pc pc' hinfo hauth h.placed hpc) ?_ ?_ hi hc
    · exact (congrArg Standing.registered h1).trans (congrArg Standing.registered h0).symm
    · exact (congrArg Standing.onDuty h1).trans (congrArg Standing.onDuty h0).symm
  move := hm
  flight hu := by simp [(hctx.plain c' pc').loginFrom] at hu

theorem CleanCtx.same (hctx : CleanCtx ctx c st) (pc pc' : CleanPc) :
    (ctx c pc').standing = (ctx c pc).standing :=
  (hctx.standing c pc' rfl rfl).trans (hctx.standing c pc rfl rfl).symm

theorem cleanStep_stepped (hctx : CleanCtx ctx c st) (h : Ok s i (ctx c pc))
    (hs : cleanStep ch s i c pc = some (e, s', c', pc')) :
    Stepped s i (ctx c pc) e s' (ctx c' pc') := by
  have hsess : ∀ pc, (ctx c pc).session = some c.userId := fun pc =>
    (congrArg Standing.session (hctx.standing c pc rfl rfl)).trans hctx.session
  cases pc with
  | start =>
    simp only [cleanStep] at hs
    split at hs
    · cases hs
      exact hctx.stepped h rfl rfl trivial rfl rfl (.inner (hctx.same _ _))
    · cases hs
  | leaving rest =>
    cases rest with
    | nil =>
      simp only [cleanStep] at hs
      cases hs
      exact hctx.stepped h rfl rfl trivial rfl rfl (.inner (hctx.same _ _))
    | cons key rest =>
      obtain ⟨comId, roomId⟩ := key
      simp only [cleanStep, Option.some.injEq, Prod.mk.injEq] at hs
      obtain ⟨rfl, rfl, rfl, rfl⟩ := hs
      rcases leaveRoom_cases s i c.userId comId roomId ch.random with e | e
      · rw [e]
        exact hctx.stepped h rfl rfl trivial rfl rfl (.inner (hctx.same _ _))
      · rw [e]
        exact hctx.stepped h rfl rfl trivial rfl rfl
          (.roomCall c.clientInfo _ _ (hsess _) rfl (hctx.same _ _))
  | left =>
    simp only [cleanStep] at hs
    split at hs
    · cases hs
      exact hctx.stepped h rfl rfl trivial rfl rfl (.inner (hctx.same _ _))
    · cases hs
  | leavingGui rest =>
    cases rest with
    | nil =>
      simp only [cleanStep] at hs
      cases hs
      exact hctx.stepped h rfl rfl trivial rfl rfl (.inner (hctx.same _ _))
    | cons roomId rest =>
      simp only [cleanStep] at hs
      split at hs
      · rename_i hp
        cases hs
        exact hctx.stepped h rfl rfl trivial rfl rfl
          (.guiCall c.clientInfo _ _ (hsess _) rfl hp (hctx.same _ _))
      · cases hs
  | leftGui =>
    simp only [cleanStep] at hs
    split at hs
    · rename_i hg
      cases hs
      exact hctx.stepped h rfl rfl hg rfl rfl (.inner (hctx.same _ _))
    · rename_i comId hg
      cases hs
      refine hctx.stepped h rfl rfl rfl rfl rfl (.stops comId _ ?_ ?_)
      · exact (congrArg Standing.playing (hctx.standing c _ rfl rfl)).trans hg
      · rw [hctx.standing c .leftGui rfl rfl]
        exact hctx.standing { c with currentGame := (none, c.currentGame.2) } .psnDone rfl rfl
  | psnDone =>
    have hpsn : c.currentGame.1 = none := hctx.placed .psnDone h.placed
    simp only [cleanStep] at hs
    split at hs
    · rename_i hg
      cases hs
      exact hctx.stepped h rfl rfl (Prod.ext hpsn hg) rfl rfl (.inner (hctx.same _ _))
    · rename_i serviceId hg
      cases hs
      refine hctx.stepped h rfl rfl (Prod.ext hpsn rfl) rfl rfl (.returns serviceId _ ?_ ?_)
      · exact (congrArg Standing.ticketing (hctx.standing c _ rfl rfl)).trans hg
      · rw [hctx.standing c .psnDone rfl rfl]
        exact hctx.standing { c with currentGame := (c.currentGame.1, none) } .returned rfl rfl
  | returned =>
    simp only [cleanStep] at hs
    cases hs

theorem cleanCtx_resetState (hauth : c.authentified = true) :
    CleanCtx (fun c pc => .client c (.resetState pc)) c
      (client c (.resetState .start)).standing where
  session := by simp [standing, session, hauth]
  plain _ _ := ⟨⟨rfl, rfl, rfl⟩, rfl⟩
  placed _ h := h.2
  place _ _ _ _ ha h hp := ⟨ha.trans h.1, hp⟩
  standing c' pc hi ha := by
    simp [Client.userId, hi, ha]

theorem cleanCtx_cleanup (c : Client) :
    CleanCtx (fun c pc => .cleanup c (.clean pc)) c (cleanup c (.clean .start)).standing where
  session := rfl
  plain _ _ := plain_cleanup _ _
  placed _ h := h
  place _ _ _ _ _ _ hp := hp
  standing c' pc hi _ := by
    simp [Client.userId, hi]

inductive CleanupSteps (ch : Choice) (s : SharedData) (i : Nat) (c : Client) :
    CleanupPc → Event → SharedData → Task → Prop where
  | cleaned {pc pc' : CleanPc} {e : Event} {s' : SharedData} {c' : Client}
      (hr : cleanStep ch s i c pc = some (e, s', c', pc')) :
      CleanupSteps ch s i c (.clean pc) e s' (.cleanup c' (.clean pc'))
  | uncounted : CleanupSteps ch s i c (.clean .returned) .silent
      { s with gameTracker := s.gameTracker.decreaseNumUsers } (.cleanup c .uncounted)
  | removed (hw : s.writer = none) : CleanupSteps ch s i c .uncounted (.removedInfo i c.userId)
      { s with clientInfos := s.clientInfos.remove c.userId } (.cleanup c .removed)
  | announced : CleanupSteps ch s i c .removed .silent s (.cleanup c .announced)
  | ended : CleanupSteps ch s i c .announced (.offDuty i c.userId)
      { s with cleanupDuty := s.cleanupDuty.erase c.userId } .gone

variable {t' : Task}

theorem cleanupStep_cases {pc : CleanupPc} (hs : cleanupStep ch s i c pc = some (e, s', t')) :
    CleanupSteps ch s i c pc e s' t' := by
  cases pc with
  | clean pc =>
    by_cases hpc : pc = .returned
    · subst hpc
      cases hs
      exact .uncounted
    · have hmap : (cleanStep ch s i c pc).map (fun r =>
          (r.1, r.2.1, cleanup r.2.2.1 (.clean r.2.2.2))) = some (e, s', t') := by
        cases pc with
        | returned => exact absurd rfl hpc
        | _ => exact hs
      obtain ⟨⟨e₁, s₁, c₁, pc₁⟩, hr, heq⟩ := Option.map_eq_some_iff.mp hmap
      cases heq
      exact .cleaned hr
  | uncounted =>
    simp only [cleanupStep] at hs
    split at hs
    · rename_i hw
      cases hs
      exact .removed hw
    · cases hs
  | removed =>
    cases hs
    exact .announced
  | announced =>
    cases hs
    exact .ended

theorem nextStep_resetState (hpc : pc ≠ .returned)
    (hs : nextStep cfg ch s i (.client c (.resetState pc)) = some (e, s', t')) :
    ∃ c' pc', cleanStep ch s i c pc = some (e, s', c', pc') ∧ t' = .client c' (.resetState pc') := by
  have hmap : (cleanStep ch s i c pc).map (fun r =>
      (r.1, r.2.1, client r.2.2.1 (.resetState r.2.2.2))) = some (e, s', t') := by
    cases pc with
    | returned => exact absurd rfl hpc
    | _ => exact hs
  obtain ⟨⟨e₁, s₁, c₁, pc₁⟩, hc, heq⟩ := Option.map_eq_some_iff.mp hmap
  cases heq
  exact ⟨c₁, pc₁, hc, rfl⟩

theorem cleanupStep_stepped {pc : CleanupPc} (h : Ok s i (.cleanup c pc))
    (hs : cleanupStep ch s i c pc = some (e, s', t')) : Stepped s i (.cleanup c pc) e s' t' := by
  cases cleanupStep_cases hs with
  | cleaned hr => exact cleanStep_stepped (cleanCtx_cleanup c) h hr
  | uncounted =>
    refine ⟨h.plain (plain_cleanup _ _) h.placed rfl rfl rfl rfl, .uncounted _ rfl rfl, ?_⟩
    simp
  | removed hw =>
    refine ⟨?_, .removedInfo c.userId _ hw rfl rfl rfl, ?_⟩
    · refine ⟨h.placed, ?_, ?_, h.duty, ?_, ?_, ?_, ?_, ?_, ?_⟩
      all_goals
        intros
        simp_all [holds, registered, absentees, loginFrom, recorded]
    · simp [loginFrom]
  | announced =>
    have hg : c.currentGame = (none, none) := h.placed
    exact stepped_within h (plain_cleanup c .announced) hg rfl
  | ended =>
    have hg : c.currentGame = (none, none) := h.placed
    refine ⟨?_, .offDuty c.userId _ ?_ rfl, ?_⟩
    · refine ⟨trivial, ?_, ?_, ?_, ?_, ?_, ?_, ?_, ?_, ?_⟩
      all_goals
        intros
        simp_all [holds, registered, onDuty, absentees, loginFrom,
          recorded]
    · simp [hg]
    · simp [loginFrom]

end Clean

/-! ## 5. The API and the cleaner -/

section Api

variable {s s' : SharedData} {i : Nat} {e : Event} {t' : Task}

variable {pc : ApiPc}

theorem stepped_api {pc' : ApiPc} (h : Ok s i (.api pc)) (hrec : (api pc').recorded = none) :
    Stepped s i (.api pc) .silent s (.api pc') :=
  stepped_within h ⟨⟨rfl, rfl, rfl⟩, hrec⟩ trivial rfl

theorem apiStep_stepped (h : Ok s i (.api pc)) (hs : apiStep cfg s pc = some (e, s', t')) :
    Stepped s i (.api pc) e s' t' := by
  cases pc with
  | received adminUsername adminPassword username =>
    simp only [apiStep] at hs
    split at hs
    · cases hs
      exact stepped_api h rfl
    · split at hs
      · cases hs
        exact stepped_api h rfl
      · cases hs
        exact stepped_api h rfl
  | admitted username =>
    simp only [apiStep] at hs
    split at hs
    · cases hs
      exact stepped_api h rfl
    · cases hs
      exact stepped_api h rfl
  | ban pc =>
    simp only [apiStep, Option.map_eq_some_iff, Prod.mk.injEq] at hs
    obtain ⟨⟨e₁, s₁, r⟩, hb, rfl, rfl, rfl⟩ := hs
    refine banStep_stepped hb h trivial rfl ⟨rfl, rfl, rfl⟩ ?_ ?_
    · intro u hu
      cases r with
      | none => cases hu
      | some pc' =>
        cases pc' with
        | found v => cases hu
        | recorded v =>
          cases hu
          rfl
    · intro u hu
      subst hu
      rfl
  | answered => cases hs

theorem cleanerStep_stepped {pc : CleanerPc} (h : Ok s i (.cleaner pc))
    (hin : ∀ u info, s.clientInfos.get? u = some info → s.db.LoggedIn u)
    (hs : cleanerStep ch s i pc = some (e, s', t')) : Stepped s i (.cleaner pc) e s' t' := by
  -- the assertion of a place inside the lock
  have inside : ∀ {pc' : CleanerPc} {w : Option Nat} {db : Account.Database}, w = some i →
      (∀ u ∈ pc'.stale, s.clientInfos.get? u = none) →
      Ok { s with writer := w, db := db } i (.cleaner pc') := by
    intro pc' w db hw habs
    refine ⟨trivial, fun _ => hw, ?_, ?_, fun hu => habs _ hu, ?_, ?_, ?_, ?_, ?_⟩
    all_goals
      intros
      simp_all [registered, onDuty, loginFrom, recorded]
  have hfl : ∀ {pc' : CleanerPc} {u : UserId}, (cleaner pc').inFlight = some u →
      (cleaner pc).inFlight = some u ∨ e = .checked i u := by
    intro pc' u hu
    cases hu
  cases pc with
  | sleeping =>
    simp only [cleanerStep, Option.map_eq_some_iff, Prod.mk.injEq] at hs
    obtain ⟨s₁, ha, rfl, rfl, rfl⟩ := hs
    obtain ⟨hw, rfl⟩ := acquire_some ha
    exact ⟨inside rfl (by simp [CleanerPc.stale]), .quiet _ _ _ (.taken hw) (.refl s.db) rfl, hfl⟩
  | entered =>
    simp only [cleanerStep] at hs
    split at hs
    · cases hs
      exact stepped_plain h plain_sleeping trivial rfl (.freed rfl) (.refl s.db)
    · cases hs
      refine ⟨inside (h.lock rfl) fun u hu => ?_, .inner rfl, hfl⟩
      cases hget : s.clientInfos.get? u with
      | none => rfl
      | some info => exact absurd (hin u info hget) (staleUserIds_not_loggedIn hu)
  | selected stale =>
    cases hs
    exact ⟨inside (h.lock rfl) fun u hu => h.absent hu,
      .quiet _ _ _ .same (deleteTimestamps_unharmed s.db stale) rfl, hfl⟩
  | unstamped stale =>
    cases hs
    exact ⟨inside (h.lock rfl) fun u hu => h.absent hu,
      .quiet _ _ _ .same (deleteFriendships_unharmed s.db stale) rfl, hfl⟩
  | unfriended stale =>
    cases hs
    refine ⟨?_, .deleted stale _ rfl (Finset.Subset.refl _) rfl, hfl⟩
    exact h.plain plain_sleeping trivial rfl rfl rfl rfl

end Api

/-! ## 6. All steps -/

section All

variable {cfg : Config} {s s' : SharedData} {i : Nat} {e : Event} {t t' : Task} {c : Client}

theorem nextStep_stepped (h : Ok s i t)
    (hin : ∀ u info, s.clientInfos.get? u = some info → s.db.LoggedIn u)
    (hs : nextStep cfg ch s i t = some (e, s', t')) : Stepped s i t e s' t' := by
  cases t with
  | client c job =>
    cases job with
    | idle => cases hs
    | login pc userId login row => exact loginStep_stepped h hs
    | delUser userId username =>
      have hauth : c.authentified = true := h.placed
      simp only [nextStep] at hs
      split at hs
      · cases hs
        refine stepped_within h (plain_resume c) (placed_resume c) ?_
        simp only [Client.resume, hauth]
        rfl
      · cases hs
        refine ⟨?_, .inner rfl, ?_⟩
        · exact h.plain ⟨⟨rfl, rfl, rfl⟩, rfl⟩ (placed_idle hauth) rfl rfl rfl rfl
        · simp [loginFrom]
    | delete pc userId username emailCheck => exact deleteStep_stepped h hs
    | ban pc =>
      have hauth : c.authentified = true := h.placed
      simp only [nextStep, Option.map_eq_some_iff, Prod.mk.injEq] at hs
      obtain ⟨⟨e₁, s₁, r⟩, hb, rfl, rfl, rfl⟩ := hs
      cases r with
      | none =>
        refine banStep_stepped hb h (placed_idle hauth) rfl ⟨rfl, rfl, rfl⟩ ?_ ?_
        · intro u hu
          cases hu
        · intro u hu
          subst hu
          rfl
      | some pc' =>
        refine banStep_stepped hb h hauth rfl ⟨rfl, rfl, rfl⟩ ?_ ?_
        · intro u hu
          cases pc' with
          | found v => cases hu
          | recorded v =>
            cases hu
            rfl
        · intro u hu
          subst hu
          rfl
    | switchGame comId =>
      obtain ⟨hauth, hg⟩ := h.placed
      cases hs
      refine ⟨h.plain (plain_idle c) (placed_idle hauth) rfl rfl rfl rfl,
        .plays comId _ rfl ?_, ?_⟩
      · simp [hg]
      · simp [loginFrom]
    | switchTicket serviceId =>
      obtain ⟨hauth, hg⟩ := h.placed
      cases hs
      refine ⟨h.plain (plain_idle c) (placed_idle hauth) rfl rfl rfl rfl,
        .buys serviceId _ rfl ?_, ?_⟩
      · simp [hg]
      · simp [loginFrom]
    | resetState pc =>
      obtain ⟨hauth, hpc⟩ := h.placed
      by_cases hret : pc = .returned
      · subst hret
        cases hs
        refine stepped_within h (plain_idle c) ?_ rfl
        intro _
        exact hpc
      · obtain ⟨c₁, pc₁, hc, rfl⟩ := nextStep_resetState hret hs
        exact cleanStep_stepped (cleanCtx_resetState hauth) h hc
  | cleanup c pc => exact cleanupStep_stepped h hs
  | gone => cases hs
  | api pc => exact apiStep_stepped h hs
  | cleaner pc => exact cleanerStep_stepped h hin hs

theorem stepped_idle (h : Ok s i (.client c .idle)) :
    Stepped s i (.client c .idle) .silent s (.client c .idle) :=
  stepped_within h (plain_idle c) h.placed rfl

theorem stepped_game {c' : Client} {g : GameTracker} (h : Ok s i (.client c .idle))
    (hinfo : c'.clientInfo = c.clientInfo) (hauth : c'.authentified = c.authentified)
    (hp : (client c' job).Placed) (hplain : (client c' job).Plain)
    (hm : Move s i (.client c .idle) .silent { s with gameTracker := g } (.client c' job)) :
    Stepped s i (.client c .idle) .silent { s with gameTracker := g } (.client c' job) where
  ok := h.plain hplain hp (by simp [registered, Client.userId, hinfo, hauth]) rfl rfl rfl
  move := hm
  flight hu := by simp [hplain.loginFrom] at hu

theorem comIdStep_stepped {comId : ComId} (h : Ok s i (.client c .idle))
    (hauth : c.authentified = true) (hs : comIdStep cfg s c comId = some (e, s', t')) :
    Stepped s i (.client c .idle) e s' t' := by
  simp only [comIdStep] at hs
  split at hs
  · rename_i cur hg
    split at hs
    · cases hs
      refine stepped_game h rfl rfl ⟨hauth, rfl⟩ ⟨⟨rfl, rfl, rfl⟩, rfl⟩ (.stops cur _ hg ?_)
      rfl
    · cases hs
      exact stepped_idle h
  · rename_i hg
    cases hs
    exact stepped_game h rfl rfl (placed_idle hauth) (plain_idle _) (.plays _ _ hg rfl)

theorem ticketStep_stepped {serviceId : String} (h : Ok s i (.client c .idle))
    (hauth : c.authentified = true) (hs : ticketStep s c serviceId = some (e, s', t')) :
    Stepped s i (.client c .idle) e s' t' := by
  simp only [ticketStep] at hs
  split at hs
  · rename_i cur hg
    split at hs
    · cases hs
      refine stepped_game h rfl rfl ⟨hauth, rfl⟩ ⟨⟨rfl, rfl, rfl⟩, rfl⟩ (.returns cur _ hg ?_)
      rfl
    · cases hs
      exact stepped_idle h
  · rename_i hg
    cases hs
    exact stepped_game h rfl rfl (placed_idle hauth) (plain_idle _) (.buys _ _ hg rfl)

theorem stepped_call (h : Ok s i (.client c .idle)) (hi : s'.clientInfos = s.clientInfos)
    (hc : s'.cleanupDuty = s.cleanupDuty)
    (hm : Move s i (.client c .idle) e s' (.client c .idle)) :
    Stepped s i (.client c .idle) e s' (.client c .idle) where
  ok := h.plain (plain_idle c) h.placed rfl rfl hi hc
  move := hm
  flight hu := by simp at hu

theorem roomStep_stepped {op : RoomOp} (h : Ok s i (.client c .idle))
    (hauth : c.authentified = true) (hop : RoomOp.MadeBy c.clientInfo op) :
    Stepped s i (.client c .idle) (roomStep s i c op).1 (roomStep s i c op).2 (.client c .idle) := by
  have hsess : (client c .idle).session = some c.userId := by simp [session, hauth]
  have hcall : ∀ op, RoomOp.MadeBy c.clientInfo op → Stepped s i (.client c .idle)
      (s.callRoom i c.userId op).1 (s.callRoom i c.userId op).2 (.client c .idle) :=
    fun op hop => stepped_call h rfl rfl (.roomCall c.clientInfo op _ hsess hop rfl)
  cases op with
  | leaveRoom comId roomId userId random =>
    have hu : userId = c.userId := hop
    subst hu
    rcases leaveRoom_cases s i c.userId comId roomId random with e | e
    · simp only [roomStep, e]
      exact stepped_idle h
    · simp only [roomStep, e]
      exact hcall _ hop
  | _ => exact hcall _ hop

theorem requestStep_stepped {r : Request} (h : Ok s i (.client c .idle))
    (hs : requestStep cfg s i c r = some (e, s', t')) : Stepped s i (.client c .idle) e s' t' := by
  -- a connection that is turned away, or starts a deletion, was not authenticated
  have hgone : c.authentified ≠ true → Stepped s i (.client c .idle) .silent s .gone := by
    intro hauth
    have hauth' : c.authentified = false := by simpa using hauth
    exact stepped_within h plain_gone trivial (standing_fresh ⟨h.placed hauth', hauth'⟩).symm
  cases r with
  | login login password token =>
    simp only [requestStep] at hs
    split at hs
    · cases hs
    · rename_i hauth
      have hauth' : c.authentified = false := by simpa using hauth
      split at hs
      · cases hs
        exact hgone hauth
      · rename_i u row hcheck
        obtain ⟨hrow, hname⟩ := checkUser_ok hcheck
        split at hs
        · cases hs
          exact hgone hauth
        · rename_i hb
          cases hs
          have hfresh := And.intro (h.placed hauth') hauth'
          refine ⟨(ok_login_iff (by decide)).mpr ?_, .checked u row _ hrow (by simpa using hb)
            ((standing_fresh hfresh).trans (standing_fresh hfresh).symm), ?_⟩
          · refine ⟨hfresh, by simp, by simp, by simp, ?_, by simp, by simp⟩
            intro v a ha hn
            exact eq_of_username ha hrow (hn.trans hname.symm)
          · intro v hv
            rw [inFlight_login (by decide)] at hv
            cases hv
            exact Or.inr rfl
  | deleteAccount login password =>
    simp only [requestStep] at hs
    split at hs
    · cases hs
    · rename_i hauth
      split at hs
      · cases hs
        exact hgone hauth
      · cases hs
        exact stepped_within h ⟨⟨rfl, rfl, rfl⟩, rfl⟩ h.placed rfl
  | banUser username =>
    simp only [requestStep] at hs
    split at hs
    · rename_i hauth
      have hauth' : c.authentified = true := by simp_all
      split at hs
      · cases hs
        exact stepped_idle h
      · cases hs
        exact stepped_within h ⟨⟨rfl, rfl, rfl⟩, rfl⟩ hauth' rfl
    · cases hs
  | delUser username =>
    simp only [requestStep] at hs
    split at hs
    · rename_i hauth
      have hauth' : c.authentified = true := by simp_all
      split at hs
      · cases hs
        exact stepped_idle h
      · cases hs
        exact stepped_within h ⟨⟨rfl, rfl, rfl⟩, rfl⟩ hauth' rfl
    · cases hs
  | resetState =>
    simp only [requestStep] at hs
    split at hs
    · rename_i hauth
      cases hs
      exact stepped_within h ⟨⟨rfl, rfl, rfl⟩, rfl⟩ ⟨hauth, trivial⟩ rfl
    · cases hs
  | comId comId =>
    simp only [requestStep] at hs
    split at hs
    · exact comIdStep_stepped h (by assumption) hs
    · cases hs
  | ticket serviceId =>
    simp only [requestStep] at hs
    split at hs
    · exact ticketStep_stepped h (by assumption) hs
    · cases hs
  | room op =>
    simp only [requestStep] at hs
    split at hs
    · rename_i hc
      cases hs
      exact roomStep_stepped h hc.1 hc.2
    · cases hs
  | gui op =>
    simp only [requestStep] at hs
    split at hs
    · rename_i hc
      cases hs
      refine stepped_call h rfl rfl (.guiCall c.clientInfo op _ ?_ hc.2.1 hc.2.2 rfl)
      simp [session, hc.1]
    · cases hs

theorem lockChange_letGo (s : SharedData) (i : Nat) (t : Task) :
    s.letGo t = { s with writer := (s.letGo t).writer } ∧
      LockChange t i s.writer (s.letGo t).writer := by
  unfold SharedData.letGo
  split
  · exact ⟨rfl, .freed (by assumption)⟩
  · exact ⟨rfl, .same⟩

theorem abortStep_stepped (h : Ok s i t) (hs : abortStep s t = some (e, s', t')) :
    Stepped s i t e s' t' := by
  have hlet := lockChange_letGo s i t
  cases t with
  | client c job =>
    cases job with
    | login pc userId login row =>
      have hpc : pc.stage ≤ 6 := by
        cases pc with
        | published => cases hs
        | _ => simp
      have hs' : some (Event.silent, s.letGo (.client c (.login pc userId login row)),
          c.resume) = some (e, s', t') := by
        cases pc with
        | published => cases hs
        | _ => exact hs
      cases hs'
      rw [hlet.1]
      exact stepped_login_gone h hpc hlet.2
    | delUser userId username =>
      have hauth : c.authentified = true := h.placed
      cases hs
      refine stepped_within h (plain_resume c) (placed_resume c) ?_
      simp only [Client.resume, hauth]
      rfl
    | delete pc userId username emailCheck =>
      cases hs
      rw [hlet.1]
      exact stepped_delete_refused h hlet.2
    | ban pc =>
      have hauth : c.authentified = true := h.placed
      cases hs
      refine stepped_within h (plain_resume c) (placed_resume c) ?_
      simp only [Client.resume, hauth]
      rfl
    | _ => cases hs
  | cleanup c pc => cases hs
  | gone => cases hs
  | api pc =>
    cases hs
    exact stepped_api h rfl
  | cleaner pc =>
    cases hs
    rw [hlet.1]
    exact stepped_plain h plain_sleeping trivial rfl hlet.2 (.refl s.db)

theorem dropClient_stepped (h : Ok s i (.client c job))
    (hjob : job = .idle ∨ ∃ pc, job = .resetState pc) (hs : dropClient s c = some (e, s', t')) :
    Stepped s i (.client c job) e s' t' := by
  have hst : (client c job).standing = (client c .idle).standing := by
    rcases hjob with rfl | ⟨pc, rfl⟩ <;> rfl
  unfold dropClient at hs
  split at hs
  · rename_i hauth
    cases hs
    have hreg : (client c job).registered = some c.userId := by
      simp [registered, hauth]
    refine ⟨⟨trivial, ?_, ?_, ?_, ?_, ?_, ?_, ?_, ?_, ?_⟩, .dropped c.userId _ hreg ?_, ?_⟩
    · simp [holds]
    · intro u hu
      cases hu
      exact h.entry hreg
    · intro u hu
      cases hu
      exact Finset.mem_insert_self _ _
    · simp [absentees]
    · simp [loginFrom]
    · simp [loginFrom]
    · simp [loginFrom]
    · simp [loginFrom]
    · simp [recorded]
    · rw [hst]
      simp [hauth, Client.userId]
    · simp [loginFrom]
  · rename_i hauth
    have hauth' : c.authentified = false := by simpa using hauth
    cases hs
    have hg : c.currentGame = (none, none) := by
      rcases hjob with rfl | ⟨pc, rfl⟩
      · exact h.placed hauth'
      · exact absurd h.placed.1 hauth
    exact stepped_within h plain_gone trivial (standing_fresh ⟨hg, hauth'⟩).symm

theorem dropStep_stepped (h : Ok s i t) (hs : dropStep s t = some (e, s', t')) :
    Stepped s i t e s' t' := by
  cases t with
  | client c job =>
    cases job with
    | idle => exact dropClient_stepped h (Or.inl rfl) hs
    | resetState pc => exact dropClient_stepped h (Or.inr ⟨pc, rfl⟩) hs
    | _ => cases hs
  | _ => cases hs

end All

end Rpcn.Session
