/-
  File:      Rpcn/Session/Sound.lean
  Subject:   THE INVARIANT OF THE SERVER, over every interleaving of the steps.

  * `Ok.other` -- freedom from interference: a step of one task leaves the assertions of the others
    true. A lock is only freed by its holder, an entry only removed by the session it belongs to, a
    duty only ended by the cleanup it belongs to, and an account only deleted under the lock by
    somebody who has not found it in `client_infos`.
-/
import Rpcn.Session.StepSpec

namespace Rpcn.Session

open Lib Account Task

variable {cfg : Config} {s s' : SharedData} {i j : Nat} {e : Event} {t t' x : Task}

/-! ## 1. Standing -/

variable {u : UserId}

theorem Task.session_of_registered (h : t.registered = some u) : t.session = some u := by
  cases t with
  | client c job => exact h
  | cleanup c pc =>
    cases pc with
    | clean pc => exact h
    | uncounted => exact h
    | removed => cases h
    | announced => cases h
  | _ => cases h

theorem Task.session_of_onDuty (h : t.onDuty = some u) : t.session = some u := by
  cases t with
  | cleanup c pc => exact h
  | _ => cases h

theorem Task.registered_or_onDuty (h : t.session = some u) :
    t.registered = some u ∨ t.onDuty = some u := by
  cases t with
  | client c job => exact Or.inl h
  | cleanup c pc => exact Or.inr h
  | _ => cases h

theorem Move.session (hm : Move s i t e s' t') (h : t'.session = some u) :
    t.session = some u ∨ e = .loggedIn i u := by
  have keep : ∀ {st : Standing}, t'.standing = st → st.session = t.session →
      t.session = some u ∨ e = .loggedIn i u := by
    intro st h1 h2
    left
    rw [← h2, ← h1]
    exact h
  cases hm with
  | published v friends _ hfl h0 h1 =>
    right
    have : t'.session = some v := congrArg Standing.session h1
    rw [h] at this
    cases this
    rfl
  | offDuty v _ h0 h1 =>
    have : t'.session = none := congrArg Standing.session h1
    rw [h] at this
    cases this
  | quiet w db _ hw hdb hst => exact keep hst rfl
  | deleted users _ hh hu hst => exact keep hst rfl
  | checked v row _ hrow hb hst => exact keep hst rfl
  | counted _ hh h0 h1 => exact keep h1 rfl
  | plays comId _ h0 h1 => exact keep h1 rfl
  | stops comId _ h0 h1 => exact keep h1 rfl
  | buys serviceId _ h0 h1 => exact keep h1 rfl
  | returns serviceId _ h0 h1 => exact keep h1 rfl
  | dropped v _ h0 h1 => exact keep h1 rfl
  | uncounted _ h0 h1 => exact keep h1 rfl
  | removedInfo v _ hw h0 hs h1 => exact keep h1 rfl
  | looked v _ hw hb hst => exact keep hst rfl
  | roomCall cinfo op _ hs hop hst => exact keep hst rfl
  | guiCall cinfo op _ hs hop hp hst => exact keep hst rfl

/-! ## 2. Freedom from interference -/

theorem Ok.congr (h : Ok s j x) (hw : s'.writer = s.writer) (hi : s'.clientInfos = s.clientInfos)
    (hc : s'.cleanupDuty = s.cleanupDuty) (hd : s'.db = s.db) : Ok s' j x := by
  obtain ⟨h1, h2, h3, h4, h5, h6, h7, h8, h9, h10⟩ := h
  refine ⟨h1, ?_, ?_, ?_, ?_, ?_, ?_, ?_, ?_, ?_⟩
  · rw [hw]; exact h2
  · rw [hi]; exact h3
  · rw [hc]; exact h4
  · rw [hi]; exact h5
  · rw [hc]; exact h6
  · rw [hd]; exact h7
  · rw [hd]; exact h8
  · rw [hd]; exact h9
  · rw [hd]; exact h10

variable {w : Option Nat}

theorem LockChange.other (hl : LockChange t i s.writer w) (ht : Ok s i t) (hx : Ok s j x)
    (hne : j ≠ i) (hh : x.holds = true) : w = some j := by
  have hw := hx.lock hh
  cases hl with
  | same => exact hw
  | taken h => rw [h] at hw; cases hw
  | freed h =>
    rw [ht.lock h] at hw
    exact absurd (Option.some.inj hw).symm hne

variable {db : Account.Database}

theorem Ok.other_db (hx : Ok s j x) (hlock : x.holds = true → w = some j)
    (hdb : Database.Carried s.db db)
    (hk : x.holds = true → ∀ {u : UserId}, u ∈ s.db.account.keys → u ∈ db.account.keys) :
    Ok { s with writer := w, db := db } j x where
  placed := hx.placed
  lock := hlock
  entry := hx.entry
  duty := hx.duty
  absent := hx.absent
  cleared := hx.cleared
  named hu hl ha hn := by
    obtain ⟨a', ha', hname, _⟩ := hdb.row ha
    exact hx.named hu hl ha' (hname.symm.trans hn)
  known hu := by
    have hholds := holds_of_absentees
      (mem_absentees_of_loginFrom (loginFrom_mono hu (by decide)))
    exact hk hholds (hx.known hu)
  stamped hu := hdb.loggedIn (hx.stamped hu)
  banned hu := hdb.banned (hx.banned hu)

theorem Ok.other (hx : Ok s j x) (hne : j ≠ i) (ht : Ok s i t) (hm : Move s i t e s' t')
    (hap : ∀ u, t.session = some u → x.session ≠ some u) : Ok s' j x := by
  cases hm with
  | quiet w db _ hw hdb hst => exact hx.other_db (hw.other ht hx hne) hdb.toCarried fun _ => hdb.keys
  | deleted users _ hh hu hst =>
    -- the deleting task holds the lock, so this one does not
    have hno : x.holds = true → False := fun hh' => by
      have := (ht.lock hh).symm.trans (hx.lock hh')
      exact hne (Option.some.inj this).symm
    exact hx.other_db (fun hh' => (hno hh').elim) (Database.deleteAccounts_carried s.db users)
      fun hh' => (hno hh').elim
  | published u friends _ hfl h0 h1 =>
    have habs := ht.absent (mem_absentees_of_loginFrom (loginFrom_mono hfl (by decide)))
    have hlock := ht.lock (holds_of_absentees
      (mem_absentees_of_loginFrom (loginFrom_mono hfl (by decide))))
    refine { hx with entry := fun {v} hv => ?_, absent := fun {v} hv => ?_ }
    · obtain ⟨info, hinfo, hk⟩ := hx.entry hv
      refine ⟨info, ?_, hk⟩
      rw [HashMap.get?_insert, if_neg]
      · exact hinfo
      · intro hvu
        rw [hvu, habs] at hinfo
        cases hinfo
    · have := hlock.symm.trans (hx.lock (holds_of_absentees hv))
      exact absurd (Option.some.inj this).symm hne
  | counted _ hh h0 h1 =>
    have hno : x.holds = true → False := fun hh' => by
      have := (ht.lock hh).symm.trans (hx.lock hh')
      exact hne (Option.some.inj this).symm
    exact { hx with lock := fun hh' => (hno hh').elim }
  | dropped u _ h0 h1 =>
    obtain ⟨info, hinfo, _⟩ := ht.entry h0
    refine { hx with duty := fun hv => Finset.mem_insert_of_mem (hx.duty hv), cleared := ?_ }
    intro v hv hmem
    rcases Finset.mem_insert.mp hmem with rfl | hmem
    · -- a login that was cleared has not found an entry, but the session dropped has one
      have := hx.absent (mem_absentees_of_loginFrom (loginFrom_mono hv (by decide)))
      rw [hinfo] at this
      cases this
    · exact hx.cleared hv hmem
  | removedInfo u _ hw h0 hs h1 =>
    refine { hx with entry := fun {v} hv => ?_, absent := fun {v} hv => ?_ }
    · obtain ⟨info, hinfo, hk⟩ := hx.entry hv
      refine ⟨info, ?_, hk⟩
      rw [HashMap.get?_remove, if_neg]
      · exact hinfo
      · intro hvu
        subst hvu
        exact hap v hs (session_of_registered hv)
    · rw [HashMap.get?_remove]
      split
      · rfl
      · exact hx.absent hv
  | offDuty u _ h0 h1 =>
    have hs : t.session = some u := congrArg Standing.session h0
    refine { hx with duty := fun {v} hv => ?_, cleared := fun hv hmem => ?_ }
    · refine Finset.mem_erase.mpr ⟨?_, hx.duty hv⟩
      intro hvu
      subst hvu
      exact hap v hs (session_of_onDuty hv)
    · exact hx.cleared hv (Finset.mem_of_mem_erase hmem)
  | looked u _ hw hb hst =>
    unfold SharedData.kick
    split
    · exact hx.congr rfl rfl rfl rfl
    · exact hx
  | checked u row _ hrow hb hst => exact hx
  | plays comId _ h0 h1 => exact hx.congr rfl rfl rfl rfl
  | stops comId _ h0 h1 => exact hx.congr rfl rfl rfl rfl
  | buys serviceId _ h0 h1 => exact hx.congr rfl rfl rfl rfl
  | returns serviceId _ h0 h1 => exact hx.congr rfl rfl rfl rfl
  | uncounted _ h0 h1 => exact hx.congr rfl rfl rfl rfl
  | roomCall cinfo op _ hs hop hst => exact hx.congr rfl rfl rfl rfl
  | guiCall cinfo op _ hs hop hp hst => exact hx.congr rfl rfl rfl rfl

/-! ## 3. One step of the server -/

structure Task.Newborn (t : Task) : Prop extends Task.Plain t where
  placed : t.Placed
  standing : t.standing = {}

theorem Task.Newborn.ok (h : t.Newborn) (s : SharedData) (i : Nat) : Ok s i t := by
  have hr : t.registered = none := congrArg Standing.registered h.standing
  have hd : t.onDuty = none := congrArg Standing.onDuty h.standing
  exact ⟨h.placed, by simp [h.holds], by simp [hr], by simp [hd], by simp [h.absentees],
    by simp [h.loginFrom], by simp [h.loginFrom], by simp [h.loginFrom], by simp [h.loginFrom],
    by simp [h.recorded]⟩

theorem newborn_client : (client Client.new .idle).Newborn :=
  ⟨plain_idle _, fun _ => rfl, rfl⟩

theorem newborn_api (adminUsername adminPassword username : String) :
    (api (.received adminUsername adminPassword username)).Newborn :=
  ⟨⟨⟨rfl, rfl, rfl⟩, rfl⟩, trivial, rfl⟩

theorem newborn_cleaner : (cleaner .sleeping).Newborn := ⟨plain_sleeping, trivial, rfl⟩

inductive Served (p : Pool SharedData Task) : Event → Pool SharedData Task → Prop where
  | spawned (t : Task) (ht : t.Newborn) : Served p .silent (p.spawn t)
  | stepped (i : Nat) (t : Task) (e : Event) (s' : SharedData) (t' : Task)
      (hi : p.tasks[i]? = some t) (h : Stepped p.shared i t e s' t') : Served p e (p.update i s' t')

/-- Whoever is in `client_infos` has an account, and has logged in. -/
def Rows (s : SharedData) : Prop :=
  ∀ u info, s.clientInfos.get? u = some info → u ∈ s.db.account.keys ∧ s.db.LoggedIn u

structure Sound (p : Pool SharedData Task) : Prop where
  ok : p.All Ok
  apart : p.Apart Task.session
  rows : Rows p.shared

inductive Program (cfg : Config) (s : SharedData) (i : Nat) (e : Event) (s' : SharedData)
    (t' : Task) : Task → Prop where
  | request (c : Client) (r : Request) (h : requestStep cfg s i c r = some (e, s', t')) :
      Program cfg s i e s' t' (.client c .idle)
  | next (t : Task) (ch : Choice) (h : nextStep cfg ch s i t = some (e, s', t')) :
      Program cfg s i e s' t' t
  | abort (t : Task) (h : abortStep s t = some (e, s', t')) : Program cfg s i e s' t' t
  | drop (t : Task) (h : dropStep s t = some (e, s', t')) : Program cfg s i e s' t' t

variable {p p' : Pool SharedData Task} {op : SessionOp}

theorem serve_cases (hs : serve cfg p op = some (e, p')) :
    (∃ t, t.Newborn ∧ e = .silent ∧ p' = p.spawn t) ∨
    ∃ i t s' t', p.tasks[i]? = some t ∧ p' = p.update i s' t' ∧
      Program cfg p.shared i e s' t' t := by
  cases op with
  | connect =>
    cases hs
    exact Or.inl ⟨_, newborn_client, rfl, rfl⟩
  | apiBan adminUsername adminPassword username =>
    rw [serve] at hs
    split at hs
    · cases hs
    · cases hs
      exact Or.inl ⟨_, newborn_api _ _ _, rfl, rfl⟩
  | request i r =>
    rw [serve] at hs
    obtain ⟨t, s', t', hi, hf, rfl⟩ := Pool.act_eq_some hs
    refine Or.inr ⟨i, t, s', t', hi, rfl, ?_⟩
    split at hf
    · exact .request _ r hf
    · cases hf
  | next i ch =>
    rw [serve] at hs
    obtain ⟨t, s', t', hi, hf, rfl⟩ := Pool.act_eq_some hs
    exact Or.inr ⟨i, t, s', t', hi, rfl, .next t ch hf⟩
  | abort i =>
    rw [serve] at hs
    obtain ⟨t, s', t', hi, hf, rfl⟩ := Pool.act_eq_some hs
    exact Or.inr ⟨i, t, s', t', hi, rfl, .abort t hf⟩
  | drop i =>
    rw [serve] at hs
    obtain ⟨t, s', t', hi, hf, rfl⟩ := Pool.act_eq_some hs
    exact Or.inr ⟨i, t, s', t', hi, rfl, .drop t hf⟩

theorem Program.stepped (h : Sound p) {i : Nat} {t t' : Task} {s' : SharedData}
    (hi : p.tasks[i]? = some t) (hp : Program cfg p.shared i e s' t' t) :
    Stepped p.shared i t e s' t' := by
  cases hp with
  | request c r hf => exact requestStep_stepped (h.ok i _ hi) hf
  | next _ ch hf =>
    exact nextStep_stepped (h.ok i t hi) (fun u info hu => (h.rows u info hu).2) hf
  | abort _ hf => exact abortStep_stepped (h.ok i t hi) hf
  | drop _ hf => exact dropStep_stepped (h.ok i t hi) hf

theorem serve_served (h : Sound p) (hs : serve cfg p op = some (e, p')) : Served p e p' := by
  rcases serve_cases hs with ⟨t, ht, rfl, rfl⟩ | ⟨i, t, s', t', hi, rfl, hp⟩
  · exact .spawned t ht
  · exact .stepped i t e s' t' hi (hp.stepped h hi)

/-! ## 4. Runs -/

theorem Sound.fresh (h : Sound p) (habs : p.shared.clientInfos.get? u = none)
    (hcl : u ∉ p.shared.cleanupDuty) (hx : p.tasks[j]? = some x) : x.session ≠ some u := by
  intro hs
  rcases registered_or_onDuty hs with hr | hd
  · obtain ⟨info, hinfo, _⟩ := (h.ok j x hx).entry hr
    rw [habs] at hinfo
    cases hinfo
  · exact hcl ((h.ok j x hx).duty hd)

structure Cleared (s : SharedData) (u : UserId) : Prop where
  absent : s.clientInfos.get? u = none
  offDuty : u ∉ s.cleanupDuty
  known : u ∈ s.db.account.keys
  stamped : s.db.LoggedIn u

theorem Ok.toCleared (h : Ok s i t) (hfl : t.loginFrom 6 = some u) : Cleared s u where
  absent := h.absent (mem_absentees_of_loginFrom (loginFrom_mono hfl (by decide)))
  offDuty := h.cleared (loginFrom_mono hfl (by decide))
  known := h.known (loginFrom_mono hfl (by decide))
  stamped := h.stamped hfl

theorem Rows.move (h : Rows s) (ht : Ok s i t) (hm : Move s i t e s' t') : Rows s' := by
  cases hm with
  | quiet w db _ hw hdb hst =>
    exact fun u info hu => ⟨hdb.keys (h u info hu).1, hdb.loggedIn (h u info hu).2⟩
  | deleted users _ hh hu hst =>
    intro v info hv
    refine ⟨Database.mem_keys_deleteAccounts.mpr ⟨(h v info hv).1, fun hmem => ?_⟩,
      (Database.deleteAccounts_carried s.db users).loggedIn (h v info hv).2⟩
    have habs := ht.absent (hu hmem)
    rw [hv] at habs
    cases habs
  | published u friends _ hfl h0 h1 =>
    intro v info hv
    rw [HashMap.get?_insert] at hv
    split at hv
    · rename_i hvu
      rw [hvu]
      exact ⟨(ht.toCleared hfl).known, (ht.toCleared hfl).stamped⟩
    · exact h v info hv
  | removedInfo u _ hw h0 hs h1 =>
    intro v info hv
    rw [HashMap.get?_remove] at hv
    split at hv
    · cases hv
    · exact h v info hv
  | looked u _ hw hb hst =>
    unfold SharedData.kick
    split <;> exact h
  | _ => exact h

theorem Sound.served (h : Sound p) (hs : Served p e p') : Sound p' := by
  cases hs with
  | spawned t ht =>
    exact ⟨h.ok.spawn (ht.ok _ _), h.apart.spawn (congrArg Standing.session ht.standing), h.rows⟩
  | stepped i t e s' t' hi hst =>
    have ht := h.ok i t hi
    refine ⟨h.ok.update hst.ok ?_, h.apart.update hi ?_, h.rows.move ht hst.move⟩
    · intro j x hne hj hx
      exact hx.other hne ht hst.move fun u hu hxu => hne (h.apart j i x t u hj hi hxu hu)
    · intro u hu
      rcases hst.move.session hu with hold | rfl
      · exact Or.inl hold
      · right
        intro j x _ hj
        cases hst.move with
        | published _ friends _ hfl h0 h1 =>
          have hc := ht.toCleared hfl
          exact h.fresh hc.absent hc.offDuty hj

theorem sound_start (db : Account.Database) : Sound ⟨.start db, [.cleaner .sleeping]⟩ where
  ok := by
    intro i t hi
    cases i with
    | zero =>
      cases hi
      exact newborn_cleaner.ok _ _
    | succ i => simp at hi
  apart := by
    intro i j t x u hi hj hu
    cases i with
    | zero =>
      cases hi
      cases hu
    | succ i => simp at hi
  rows u info hu := by simp [SharedData.start] at hu

variable {es : List (SessionOp × Event)}

theorem sound_of_run (h : (sessionSystem cfg db).Run es p) : Sound p :=
  h.carried (I := fun _ p => Sound p) (sound_start db)
    fun _ _ _ _ _ _ hI hs => hI.served (serve_served hI hs)

theorem run_induction {I : List (SessionOp × Event) → Pool SharedData Task → Prop}
    (h0 : I [] ⟨.start db, [.cleaner .sleeping]⟩)
    (hs : ∀ es p op e p', Sound p → Served p e p' → I es p → I (es ++ [(op, e)]) p')
    (h : (sessionSystem cfg db).Run es p) : I es p := by
  unfold sessionSystem at h
  exact h.carried h0 fun es p op e p' hrun hI hstep =>
    hs es p op e p' (sound_of_run hrun) (serve_served (sound_of_run hrun) hstep) hI

end Rpcn.Session
