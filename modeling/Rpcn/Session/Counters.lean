/-
  File:      Rpcn/Session/Counters.lean
  Subject:   THE GAME COUNTERS ARE EXACT: every increment of `GameTracker` is taken back once.

  The counters are changed in six places: at the end of a login, by the first and by every other
  com id or service id of a client, by `clean_user_state`, and by the cleanup. Each change comes with
  a change of the task that makes it, so that value and number of tasks stay in balance
  (`Move.balance`). A client between the two updates of a change of game is counted for neither.
-/
import Rpcn.Session.Exclusion

namespace Rpcn.Session

open Lib Account Standing

/-! ## 1. The counters -/

namespace GameTracker

def psnCount (g : GameTracker) (comId : ComId) : Int :=
  ((g.psnGames.get? comId).map GameInfo.numUsers).getD 0

def ticketCount (g : GameTracker) (serviceId : String) : Int := (g.ticketGames.get? serviceId).getD 0

variable (g : GameTracker)

@[simp] theorem psnCount_addValuePsn (c d : ComId) (n : Int) :
    (g.addValuePsn c n).psnCount d = g.psnCount d + if d = c then n else 0 := by
  unfold psnCount addValuePsn
  by_cases h : d = c
  · subst h
    cases g.psnGames.get? d <;> simp
  · simp [h]

@[simp] theorem ticketCount_addValueTicket (a b : String) (n : Int) :
    (g.addValueTicket a n).ticketCount b = g.ticketCount b + if b = a then n else 0 := by
  unfold ticketCount addValueTicket
  by_cases h : b = a
  · subst h
    simp
  · simp [h]

end GameTracker

def weight (b : Bool) : Int := if b then 1 else 0

variable {A : Type}

theorem weight_start [BEq A] [LawfulBEq A] [DecidableEq A] (c d : A) :
    (if d = c then 1 else 0) + weight ((none : Option A) == some d) = weight (some c == some d) := by
  by_cases h : d = c
  · simp [weight, h]
  · simp [weight, h, Ne.symm h]

theorem weight_stop [BEq A] [LawfulBEq A] [DecidableEq A] (c d : A) :
    (if d = c then -1 else 0) + weight (some c == some d) = weight ((none : Option A) == some d) := by
  by_cases h : d = c
  · simp [weight, h]
  · simp [weight, h, Ne.symm h]

/-! ## 2. Balance -/

structure Balance (g : GameTracker) (t : Task) (g' : GameTracker) (t' : Task) : Prop where
  num : g'.numUsers + weight t.counted = g.numUsers + weight t'.counted
  psn : ∀ c, g'.psnCount c + weight (t.playing == some c) =
    g.psnCount c + weight (t'.playing == some c)
  ticket : ∀ a, g'.ticketCount a + weight (t.ticketing == some a) =
    g.ticketCount a + weight (t'.ticketing == some a)

section Balance

variable {g : GameTracker} {t t' : Task}

theorem Balance.same (hc : t'.counted = t.counted) (hp : t'.playing = t.playing)
    (ht : t'.ticketing = t.ticketing) : Balance g t g t' :=
  ⟨by rw [hc], fun c => by rw [hp], fun a => by rw [ht]⟩

theorem Balance.standing {st : Standing} (h1 : t'.standing = st) (hc : st.counted = t.counted)
    (hp : st.playing = t.playing) (ht : st.ticketing = t.ticketing) : Balance g t g t' :=
  .same ((congrArg counted h1).trans hc) ((congrArg playing h1).trans hp)
    ((congrArg ticketing h1).trans ht)

theorem Balance.ofNum {n : Int} (hp : t'.playing = t.playing) (ht : t'.ticketing = t.ticketing)
    (hn : n + weight t.counted = weight t'.counted) :
    Balance g t { g with numUsers := g.numUsers + n } t' :=
  ⟨by simp only; omega, fun c => by rw [hp]; rfl, fun a => by rw [ht]; rfl⟩

theorem Balance.ofPsn {comId : ComId} {n : Int} (hc : t'.counted = t.counted)
    (ht : t'.ticketing = t.ticketing) (hn : ∀ c, (if c = comId then n else 0) +
      weight (t.playing == some c) = weight (t'.playing == some c)) :
    Balance g t (g.addValuePsn comId n) t' where
  num := by rw [hc]; rfl
  psn c := by rw [GameTracker.psnCount_addValuePsn, add_assoc, hn c]
  ticket a := by rw [ht]; rfl

theorem Balance.ofTicket {serviceId : String} {n : Int} (hc : t'.counted = t.counted)
    (hp : t'.playing = t.playing) (hn : ∀ a, (if a = serviceId then n else 0) +
      weight (t.ticketing == some a) = weight (t'.ticketing == some a)) :
    Balance g t (g.addValueTicket serviceId n) t' where
  num := by rw [hc]; rfl
  psn c := by rw [hp]; rfl
  ticket a := by rw [GameTracker.ticketCount_addValueTicket, add_assoc, hn a]

end Balance

variable {s' : SharedData} {i : Nat} {e : Event}

theorem Move.balance {s : SharedData} {t t' : Task} (hm : Move s i t e s' t') :
    Balance s.gameTracker t s'.gameTracker t' := by
  cases hm with
  | quiet w db _ hw hdb hst => exact .standing hst rfl rfl rfl
  | deleted users _ hh hu hst => exact .standing hst rfl rfl rfl
  | checked u row _ hrow hb hst => exact .standing hst rfl rfl rfl
  | published u friends _ hfl h0 h1 =>
    exact .standing h1 (congrArg Standing.counted h0).symm (congrArg Standing.playing h0).symm
      (congrArg Standing.ticketing h0).symm
  | counted _ hh h0 h1 =>
    have hc : t'.counted = true := congrArg Standing.counted h1
    refine .ofNum (congrArg Standing.playing h1) (congrArg Standing.ticketing h1) ?_
    rw [h0, hc]
    rfl
  | uncounted _ h0 h1 =>
    have hc : t'.counted = false := congrArg Standing.counted h1
    refine .ofNum (congrArg Standing.playing h1) (congrArg Standing.ticketing h1) ?_
    rw [h0, hc]
    rfl
  | plays comId _ h0 h1 =>
    have hp : t'.playing = some comId := congrArg Standing.playing h1
    refine .ofPsn (congrArg Standing.counted h1) (congrArg Standing.ticketing h1) fun c => ?_
    rw [h0, hp]
    exact weight_start comId c
  | stops comId _ h0 h1 =>
    have hp : t'.playing = none := congrArg Standing.playing h1
    refine .ofPsn (congrArg Standing.counted h1) (congrArg Standing.ticketing h1) fun c => ?_
    rw [h0, hp]
    exact weight_stop comId c
  | buys serviceId _ h0 h1 =>
    have ht : t'.ticketing = some serviceId := congrArg Standing.ticketing h1
    refine .ofTicket (congrArg Standing.counted h1) (congrArg Standing.playing h1) fun a => ?_
    rw [h0, ht]
    exact weight_start serviceId a
  | returns serviceId _ h0 h1 =>
    have ht : t'.ticketing = none := congrArg Standing.ticketing h1
    refine .ofTicket (congrArg Standing.counted h1) (congrArg Standing.playing h1) fun a => ?_
    rw [h0, ht]
    exact weight_stop serviceId a
  | dropped u _ h0 h1 => exact .standing h1 rfl rfl rfl
  | removedInfo u _ hw h0 hs h1 => exact .standing h1 rfl rfl rfl
  | offDuty u _ h0 h1 =>
    exact .standing h1 (congrArg Standing.counted h0).symm (congrArg Standing.playing h0).symm
      (congrArg Standing.ticketing h0).symm
  | looked u _ hw hb hst =>
    unfold SharedData.kick
    split <;> exact .standing hst rfl rfl rfl
  | roomCall cinfo op _ hs hop hst => exact .standing hst rfl rfl rfl
  | guiCall cinfo op _ hs hop hp hst => exact .standing hst rfl rfl rfl

/-! ## 3. Runs -/

structure Books (p : Pool SharedData Task) : Prop where
  num : p.shared.gameTracker.numUsers = p.count Task.counted
  psn : ∀ c, p.shared.gameTracker.psnCount c = p.count fun t => t.playing == some c
  ticket : ∀ a, p.shared.gameTracker.ticketCount a = p.count fun t => t.ticketing == some a

theorem count_balance {p : Pool SharedData Task} {t t' : Task} (q : Task → Bool) {v v' : Int}
    (hi : p.tasks[i]? = some t) (hv : v = p.count q) (hb : v' + weight (q t) = v + weight (q t')) :
    v' = ((p.update i s' t').count q : Int) := by
  have hc : (p.update i s' t').count q + (if q t then 1 else 0) =
      p.count q + (if q t' then 1 else 0) := Pool.count_update q hi
  unfold weight at hb
  split at hb <;> split at hb <;> simp_all
  all_goals omega

theorem Books.served {p p' : Pool SharedData Task} (h : Books p) (hs : Served p e p') :
    Books p' := by
  cases hs with
  | spawned t ht =>
    have hc : t.counted = false := congrArg counted ht.standing
    have hp : t.playing = none := congrArg playing ht.standing
    have htk : t.ticketing = none := congrArg ticketing ht.standing
    refine ⟨?_, fun c => ?_, fun a => ?_⟩
    · rw [Pool.count_spawn, hc]
      exact h.num
    · rw [Pool.count_spawn, hp]
      exact h.psn c
    · rw [Pool.count_spawn, htk]
      exact h.ticket a
  | stepped i t e s' t' hi hst =>
    have hb := hst.move.balance
    exact ⟨count_balance _ hi h.num hb.num,
      fun c => count_balance (fun t => t.playing == some c) hi (h.psn c) (hb.psn c),
      fun a => count_balance (fun t => t.ticketing == some a) hi (h.ticket a) (hb.ticket a)⟩

section Runs

variable {cfg : Config} {db : Account.Database} {es : List (SessionOp × Event)}
  {p : Pool SharedData Task}

theorem books_of_run (h : (sessionSystem cfg db).Run es p) : Books p :=
  run_induction (I := fun _ p => Books p) ⟨rfl, fun _ => rfl, fun _ => rfl⟩
    (fun _ _ _ _ _ _ hs hI => hI.served hs) h

variable {t : Task}

theorem Task.uncounted_of_session (hp : t.Placed) (h : t.session = none) :
    t.counted = false ∧ t.playing = none ∧ t.ticketing = none := by
  cases t with
  | client c job =>
    have hauth : c.authentified = false := by
      by_contra hc
      simp [Task.session, hc] at h
    cases job with
    | idle => simp [Task.counted, Task.playing, Task.ticketing, hauth, hp hauth]
    | login pc u l r => simp [Task.counted, Task.playing, Task.ticketing, hp.1]
    | delete pc u n m => simp [Task.counted, Task.playing, Task.ticketing, hauth, hp hauth]
    | delUser u n => exact absurd (hp.symm.trans hauth) (by decide)
    | ban pc => exact absurd (hp.symm.trans hauth) (by decide)
    | switchGame c => exact absurd (hp.1.symm.trans hauth) (by decide)
    | switchTicket a => exact absurd (hp.1.symm.trans hauth) (by decide)
    | resetState pc => exact absurd (hp.1.symm.trans hauth) (by decide)
  | cleanup c pc => cases h
  | _ => exact ⟨rfl, rfl, rfl⟩

/-- The `current_game` of a session and of the cleanup after it. -/
def Task.currentGame : Task → Option ComId × Option String
  | .client c _ => c.currentGame
  | .cleanup c _ => c.currentGame
  | _ => (none, none)

/-- Is the task between the decrement for the old game and the increment for the new one? -/
def Task.switching : Task → Bool
  | .client _ (.switchGame _) => true
  | .client _ (.switchTicket _) => true
  | _ => false

theorem Task.counted_for (h : t.switching = false) : t.currentGame = (t.playing, t.ticketing) := by
  cases t with
  | client c job => cases job <;> first | rfl | cases h
  | _ => rfl

/-- **The counters are exact.** At any time: `num_users` is the number of sessions that have been
    counted at their login and not been taken off by their cleanup; a game's counter is the number of
    the sessions, live or being cleaned, that are counted for it, which outside the two halves of a
    change of game are those whose `current_game` it is; so none is negative, and when no session is
    left and no cleanup at work, all are zero. -/
theorem counters_exact (h : (sessionSystem cfg db).Run es p) :
    p.shared.gameTracker.numUsers = p.count Task.counted ∧
    (∀ c, p.shared.gameTracker.psnCount c = p.count fun t => t.playing == some c) ∧
    (∀ a, p.shared.gameTracker.ticketCount a = p.count fun t => t.ticketing == some a) ∧
    ((∀ t ∈ p.tasks, t.switching = false) →
      (∀ c, p.shared.gameTracker.psnCount c = p.count fun t => t.currentGame.1 == some c) ∧
      (∀ a, p.shared.gameTracker.ticketCount a = p.count fun t => t.currentGame.2 == some a)) ∧
    (0 ≤ p.shared.gameTracker.numUsers ∧ (∀ c, 0 ≤ p.shared.gameTracker.psnCount c) ∧
      ∀ a, 0 ≤ p.shared.gameTracker.ticketCount a) ∧
    ((∀ t ∈ p.tasks, t.session = none) →
      p.shared.gameTracker.numUsers = 0 ∧ (∀ c, p.shared.gameTracker.psnCount c = 0) ∧
      ∀ a, p.shared.gameTracker.ticketCount a = 0) := by
  have hb := books_of_run h
  have hplaced : ∀ t ∈ p.tasks, t.Placed := by
    intro t ht
    obtain ⟨i, hi⟩ := List.mem_iff_getElem?.mp ht
    exact ((sound_of_run h).ok i t hi).placed
  refine ⟨hb.num, hb.psn, hb.ticket, ?_, ⟨?_, fun c => ?_, fun a => ?_⟩, ?_⟩
  · intro hsw
    refine ⟨fun c => ?_, fun a => ?_⟩
    · rw [hb.psn c]
      exact congrArg _ (p.count_congr fun t ht => by rw [Task.counted_for (hsw t ht)])
    · rw [hb.ticket a]
      exact congrArg _ (p.count_congr fun t ht => by rw [Task.counted_for (hsw t ht)])
  · rw [hb.num]
    exact Int.natCast_nonneg _
  · rw [hb.psn c]
    exact Int.natCast_nonneg _
  · rw [hb.ticket a]
    exact Int.natCast_nonneg _
  · intro hs
    have hzero : ∀ t ∈ p.tasks, t.counted = false ∧ t.playing = none ∧ t.ticketing = none :=
      fun t ht => Task.uncounted_of_session (hplaced t ht) (hs t ht)
    refine ⟨?_, fun c => ?_, fun a => ?_⟩
    · rw [hb.num, p.count_eq_zero fun t ht => (hzero t ht).1, Nat.cast_zero]
    · rw [hb.psn c, p.count_eq_zero fun t ht => by rw [(hzero t ht).2.1]; rfl, Nat.cast_zero]
    · rw [hb.ticket a, p.count_eq_zero fun t ht => by rw [(hzero t ht).2.2]; rfl, Nat.cast_zero]

end Runs

def oneGame : ComId := .replicate 12 0x41

def otherGame : ComId := .replicate 12 0x42

theorem counters_exact_two_games :
    ∃ es p, (sessionSystem openConfig twoAccounts).Run es p ∧
      p.shared.gameTracker.psnCount otherGame = 1 ∧
      p.count (fun t => t.playing == some otherGame) = 1 ∧
      p.shared.gameTracker.ticketCount "UP" = p.count fun t => t.ticketing == some "UP" := by
  have hrun : (runOps twoAccounts (loginOps 1 "ada" ++ loginOps 2 "bob" ++
      [SessionOp.request 1 (.comId oneGame), .request 1 (.ticket "UP"),
        .request 2 (.comId oneGame), .request 1 (.comId otherGame),
        .next 1 {}])).map (fun r => r.2.shared.gameTracker.psnCount otherGame) = some 1 := by
    decide +kernel
  obtain ⟨r, hr, hone⟩ := Option.map_eq_some_iff.mp hrun
  have h := run_of_runOps hr
  have hexact := counters_exact h
  have hcount := (hexact.2.1 otherGame).symm.trans hone
  exact ⟨r.1, r.2, h, hone, by exact_mod_cast hcount, hexact.2.2.1 "UP"⟩

end Rpcn.Session
