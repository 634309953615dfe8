/-
  File:      Rpcn/Friend/Copies.lean
  Subject:   IN-MEMORY FRIENDS EQUAL DATABASE FRIENDS, while requests are served one at a time.

  Who is a friend of whom is in the database once for two users, and in the map of each of them who is
  online. A login copies the row into the map, AddFriend and RemoveFriend change both.
-/
import Rpcn.Account.Friendship
import Rpcn.Friend.Requests
import Rpcn.Session.Exclusion

namespace Rpcn.Friend

open Lib Account Session Account.Database HashMap
open Session (SharedData ClientSharedInfo Config Client Task Choice)

/-! ## 1. Requests one at a time -/

/-- A task with nobody else at work: its steps, each with what it is left to choose. -/
def runAlone (cfg : Config) (i : Nat) : List Choice → SharedData → Task → SharedData × Task
  | [], s, t => (s, t)
  | ch :: chs, s, t =>
    match Session.nextStep cfg ch s i t with
    | none => (s, t)
    | some (_, s', t') => runAlone cfg i chs s' t'

def atRest : Task → Bool
  | .client _ .idle => true
  | .gone => true
  | _ => false

inductive FriendOp where
  | login (i : Nat) (login password token : String) (chs : List Choice)
  | logout (i : Nat) (c : Client) (chs : List Choice)
  | friend (r : FriendRequest)

/-- A login on connection `i`, from the request to its end. -/
def login (cfg : Config) (s : SharedData) (i : Nat) (login password token : String)
    (chs : List Choice) : SharedData × Task :=
  match Session.requestStep cfg s i Client.new (.login login password token) with
  | none => (s, .client Client.new .idle)
  | some (_, s', t) => runAlone cfg i chs s' t

def logout (cfg : Config) (s : SharedData) (i : Nat) (c : Client) (chs : List Choice) :
    SharedData × Task :=
  match Session.dropClient s c with
  | none => (s, .gone)
  | some (_, s', t) => runAlone cfg i chs s' t

/-- One request on the state; `none` where a task would not be through. -/
def FriendOp.serve (cfg : Config) (s : SharedData) : FriendOp → Option (Unit × SharedData)
  | .login i name password token chs =>
    let x := Friend.login cfg s i name password token chs
    if atRest x.2 then some ((), x.1) else none
  | .logout i c chs =>
    let x := Friend.logout cfg s i c chs
    if atRest x.2 then some ((), x.1) else none
  | .friend r => some ((), (r.serve s).2)

/-- **The server that serves one request at a time.** -/
def friendServer (cfg : Config) (db : Account.Database) : System SharedData FriendOp Unit :=
  .ofPartial (.start db) (FriendOp.serve cfg)

/-! ## 2. The maps are right -/

def Right (db : Account.Database) (u : UserId) (friends : HashMap UserId String) : Prop :=
  ∀ v, v ∈ friends.keys ↔ db.Mutual u v

structure Agree (s : SharedData) : Prop where
  plain : s.db.PlainRows
  right : ∀ {u : UserId} {info : ClientSharedInfo}, s.clientInfos.get? u = some info →
    Right s.db u info.friends

def friendsRead : Task → Option (UserId × HashMap UserId String)
  | .client _ (.login (.related friends) u _ _) => some (u, friends)
  | .client _ (.login (.stamped friends) u _ _) => some (u, friends)
  | _ => none

structure AgreeAt (s : SharedData) (t : Task) : Prop extends Agree s where
  read : ∀ {u : UserId} {friends : HashMap UserId String}, friendsRead t = some (u, friends) →
    Right s.db u friends

variable {db db' : Account.Database}

theorem rel_congr (h : db'.friendship = db.friendship) (u v : UserId) :
    db'.rel u v = db.rel u v := by
  unfold rel
  rw [h]

theorem mutual_congr (h : db'.friendship = db.friendship) (u v : UserId) :
    db'.Mutual u v ↔ db.Mutual u v := by
  rw [mutual_iff, mutual_iff, rel_congr h]

variable {u : UserId}

theorem Right.congr (h : db'.friendship = db.friendship) {friends : HashMap UserId String}
    (hr : Right db u friends) : Right db' u friends :=
  fun v => (hr v).trans (mutual_congr h u v).symm

variable {s s' : SharedData}

theorem Agree.keep (h : Agree s) (hf : s'.db.friendship = s.db.friendship)
    (hi : ∀ u info, s'.clientInfos.get? u = some info → s.clientInfos.get? u = some info) :
    Agree s' where
  plain k st hk := h.plain k st (hf ▸ hk)
  right hu := (h.right (hi _ _ hu)).congr hf

theorem Agree.at (h : Agree s) {t : Task} (ht : friendsRead t = none) : AgreeAt s t :=
  ⟨h, fun hr => by
    rw [ht] at hr
    cases hr⟩

/-! ## 3. Logins and logouts -/

variable {v : UserId}

theorem mem_foldl_insert (l : List (UserId × String)) (m : HashMap UserId String) :
    v ∈ (l.foldl (fun m p => m.insert p.1 p.2) m).keys ↔ v ∈ m.keys ∨ ∃ name, (v, name) ∈ l := by
  induction l generalizing m with
  | nil => simp
  | cons p l ih =>
    obtain ⟨w, name⟩ := p
    rw [List.foldl_cons, ih, keys_insert, Finset.mem_insert]
    constructor
    · intro h
      rcases h with (rfl | h) | ⟨name', h⟩
      · exact Or.inr ⟨name, List.mem_cons_self⟩
      · exact Or.inl h
      · exact Or.inr ⟨name', List.mem_cons_of_mem _ h⟩
    · intro h
      rcases h with h | ⟨name', h⟩
      · exact Or.inl (Or.inr h)
      · rcases List.mem_cons.mp h with e | h
        · cases e
          exact Or.inl (Or.inl rfl)
        · exact Or.inr ⟨name', h⟩

theorem mem_friendMap {l : List (UserId × String)} :
    v ∈ (friendMap l).keys ↔ ∃ name, (v, name) ∈ l :=
  (mem_foldl_insert l ∅).trans (or_iff_right (notMem_keys.mpr (get?_empty v)))

theorem right_friendMap (h : db.PlainRows) {scan : List (UserId × UserId)}
    (ho : Orders scan (db.friendRows u)) :
    Right db u (friendMap (db.getRelationships u scan).friends) := by
  intro v
  rw [mem_friendMap, h.mutual_iff]
  exact mem_friends fun k => by rw [← ho.2, List.mem_toFinset]

section Steps

variable {cfg : Config} {ch : Choice} {s s' : SharedData} {i : Nat} {t t' : Task} {c : Client}
  {e : Session.Event}

theorem friendsRead_resume (c : Client) : friendsRead c.resume = none := by
  unfold Client.resume
  split <;> rfl

theorem loginStep_agree {name : String} {row : AccountRow} {pc : LoginPc}
    (h : AgreeAt s (.client c (.login pc u name row)))
    (hs : loginStep ch s i c u name row pc = some (e, s', t')) : AgreeAt s' t' := by
  have hrel : Agree s.release := h.toAgree.keep rfl fun _ _ hu => hu
  cases pc with
  | checked =>
    obtain ⟨s₁, hacq, he⟩ := Option.map_eq_some_iff.mp hs
    cases he
    obtain ⟨_, rfl⟩ := acquire_some hacq
    refine Agree.at ?_ rfl
    exact h.toAgree.keep rfl fun _ _ hu => hu
  | entered =>
    simp only [loginStep] at hs
    split at hs <;> cases hs
    · exact hrel.at (friendsRead_resume c)
    · exact h.toAgree.at rfl
  | absent =>
    simp only [loginStep] at hs
    split at hs <;> cases hs
    · exact hrel.at (friendsRead_resume c)
    · exact h.toAgree.at rfl
  | cleared =>
    simp only [loginStep] at hs
    split at hs <;> cases hs
    · exact hrel.at (friendsRead_resume c)
    · exact h.toAgree.at rfl
  | known =>
    simp only [loginStep] at hs
    split at hs
    · rename_i ho
      cases hs
      refine ⟨h.toAgree, fun hr => ?_⟩
      cases hr
      exact right_friendMap h.plain ho
    · cases hs
  | related friends =>
    cases hs
    refine ⟨h.toAgree.keep rfl fun _ _ hu => hu, fun hr => ?_⟩
    cases hr
    exact (h.read rfl).congr rfl
  | stamped friends =>
    cases hs
    refine Agree.at ?_ rfl
    refine ⟨h.plain, fun {w info} hw => ?_⟩
    rw [get?_insert] at hw
    split at hw
    · rename_i hwu
      cases hw
      rw [hwu]
      exact h.read rfl
    · exact h.right hw
  | published =>
    cases hs
    refine Agree.at ?_ rfl
    exact h.toAgree.keep rfl fun _ _ hu => hu

theorem cleanStep_infos {c' : Client} {pc pc' : CleanPc}
    (hs : cleanStep ch s i c pc = some (e, s', c', pc')) :
    s'.db = s.db ∧ s'.clientInfos = s.clientInfos := by
  cases pc with
  | leaving rest =>
    cases rest with
    | nil =>
      cases hs
      exact ⟨rfl, rfl⟩
    | cons key rest =>
      cases hs
      rcases leaveRoom_cases s i c.userId key.1 key.2 ch.random with he | he
      · rw [he]
        exact ⟨rfl, rfl⟩
      · rw [he]
        exact ⟨rfl, rfl⟩
  | leavingGui rest =>
    cases rest with
    | nil =>
      cases hs
      exact ⟨rfl, rfl⟩
    | cons roomId rest =>
      simp only [cleanStep] at hs
      split at hs
      · cases hs
        exact ⟨rfl, rfl⟩
      · cases hs
  | returned => cases hs
  | _ =>
    simp only [cleanStep] at hs
    split at hs <;> cases hs <;> exact ⟨rfl, rfl⟩

theorem cleanupStep_agree {pc : CleanupPc} (h : Agree s)
    (hs : cleanupStep ch s i c pc = some (e, s', t')) :
    Agree s' ∧ friendsRead t' = none := by
  cases cleanupStep_cases hs with
  | cleaned hr =>
    obtain ⟨hdb, hinfos⟩ := cleanStep_infos hr
    exact ⟨h.keep (by rw [hdb]) fun _ _ hu => by rwa [hinfos] at hu, rfl⟩
  | uncounted => exact ⟨h.keep rfl fun _ _ hu => hu, rfl⟩
  | removed hw =>
    refine ⟨h.keep rfl fun u info hu => ?_, rfl⟩
    rw [get?_remove] at hu
    split at hu
    · cases hu
    · exact hu
  | announced => exact ⟨h, rfl⟩
  | ended => exact ⟨h.keep rfl fun _ _ hu => hu, rfl⟩

end Steps

def Alone : Task → Prop
  | .client _ .idle => True
  | .client _ (.login _ _ _ _) => True
  | .cleanup _ _ => True
  | .gone => True
  | _ => False

theorem alone_resume (c : Client) : Alone c.resume := by
  unfold Client.resume
  split <;> trivial

section Runs

variable {cfg : Config} {ch : Choice} {s s' : SharedData} {i : Nat} {t t' : Task}
  {e : Session.Event}

theorem nextStep_alone (h : Alone t) (hs : nextStep cfg ch s i t = some (e, s', t')) :
    Alone t' := by
  cases t with
  | client c job =>
    cases job with
    | login pc u name row =>
      rw [nextStep] at hs
      cases pc <;> grind [loginStep, Alone, alone_resume, Option.map_eq_some_iff]
    | idle => cases hs
    | _ => cases h
  | cleanup c pc =>
    rw [nextStep] at hs
    cases pc with
    | clean pc => cases pc <;> grind [cleanupStep, Alone, Option.map_eq_some_iff]
    | _ => grind [cleanupStep, Alone]
  | gone => cases hs
  | _ => cases h

theorem nextStep_agree (ht : Alone t) (h : AgreeAt s t)
    (hs : nextStep cfg ch s i t = some (e, s', t')) : AgreeAt s' t' := by
  cases t with
  | client c job =>
    cases job with
    | login pc u name row => exact loginStep_agree h hs
    | idle => cases hs
    | _ => cases ht
  | cleanup c pc =>
    obtain ⟨h', hread⟩ := cleanupStep_agree h.toAgree hs
    exact h'.at hread
  | gone => cases hs
  | _ => cases ht

theorem runAlone_invariant {I : SharedData → Task → Prop}
    (hstep : ∀ {ch : Choice} {s s' : SharedData} {t t' : Task} {e : Event}, I s t →
      nextStep cfg ch s i t = some (e, s', t') → I s' t')
    (h : I s t) (chs : List Choice) :
    I (runAlone cfg i chs s t).1 (runAlone cfg i chs s t).2 := by
  induction chs generalizing s t with
  | nil => exact h
  | cons ch chs ih =>
    rw [runAlone]
    split
    · exact h
    · rename_i e s' t' hs
      exact ih (hstep h hs)

theorem login_starts (cfg : Config) (s : SharedData) (i : Nat) (name password token : String)
    (chs : List Choice) : ∃ t chs', Alone t ∧ friendsRead t = none ∧
      login cfg s i name password token chs = runAlone cfg i chs' s t := by
  unfold login
  split
  · exact ⟨.client Client.new .idle, [], trivial, rfl, rfl⟩
  · rename_i e s' t hs
    simp only [requestStep] at hs
    split at hs
    · cases hs
    · split at hs
      · cases hs
        exact ⟨.gone, chs, trivial, rfl, rfl⟩
      · split at hs <;> cases hs <;> refine ⟨_, chs, ?_, ?_, rfl⟩ <;> trivial

theorem logout_starts (cfg : Config) (s : SharedData) (i : Nat) (c : Client) (chs : List Choice) :
    ∃ s' t chs', Alone t ∧ friendsRead t = none ∧ s'.db = s.db ∧ s'.clientInfos = s.clientInfos ∧
      logout cfg s i c chs = runAlone cfg i chs' s' t := by
  unfold logout
  split
  · exact ⟨s, .gone, [], trivial, rfl, rfl, rfl, rfl⟩
  · rename_i e s' t hs
    unfold dropClient at hs
    split at hs <;> cases hs <;> refine ⟨_, _, chs, ?_, ?_, ?_, ?_, rfl⟩ <;> trivial

theorem runAlone_agree (ht : Alone t) (h : AgreeAt s t) (chs : List Choice) :
    Agree (runAlone cfg i chs s t).1 := by
  have hrun : Alone (runAlone cfg i chs s t).2 ∧
      AgreeAt (runAlone cfg i chs s t).1 (runAlone cfg i chs s t).2 :=
    runAlone_invariant (I := fun s t => Alone t ∧ AgreeAt s t)
      (fun h hs => ⟨nextStep_alone h.1 hs, nextStep_agree h.1 h.2 hs⟩) ⟨ht, h⟩ chs
  exact hrun.2.toAgree

theorem login_agree (h : Agree s) (i : Nat) (name password token : String) (chs : List Choice) :
    Agree (login cfg s i name password token chs).1 := by
  obtain ⟨t, chs', ht, hread, heq⟩ := login_starts cfg s i name password token chs
  rw [heq]
  exact runAlone_agree ht (h.at hread) chs'

theorem logout_agree (h : Agree s) (i : Nat) (c : Client) (chs : List Choice) :
    Agree (logout cfg s i c chs).1 := by
  obtain ⟨s', t, chs', ht, hread, hdb, hinfos, heq⟩ := logout_starts cfg s i c chs
  rw [heq]
  have h' : Agree s' := h.keep (by rw [hdb]) fun _ _ hu => by rwa [hinfos] at hu
  exact runAlone_agree ht (h'.at hread) chs'

end Runs

/-! ## 4. Friend requests -/

variable {kind : Kind} {rel : Option (UInt8 × UInt8)} {st : UInt8 × UInt8} {npid : String}
  {info : ClientSharedInfo}

section Requests

variable {s : SharedData} {r : FriendRequest} {v : UserId} {su sf : UInt8} {db : Account.Database}

def PlainStatus (st : UInt8 × UInt8) : Prop :=
  (st.1 = 0 ∨ st.1 = Account.Database.friendStatusFriend) ∧
    (st.2 = 0 ∨ st.2 = Account.Database.friendStatusFriend)

instance (st : UInt8 × UInt8) : Decidable (PlainStatus st) :=
  inferInstanceAs (Decidable (_ ∧ _))

def BothFriends (st : UInt8 × UInt8) : Prop :=
  st.1 &&& Account.Database.friendStatusFriend ≠ 0 ∧ st.2 &&& Account.Database.friendStatusFriend ≠ 0

instance (st : UInt8 × UInt8) : Decidable (BothFriends st) :=
  inferInstanceAs (Decidable (_ ∧ _))

/-- **What a request makes of a row**: when it touches the maps, the two are friends after an
    AddFriend and are not after a RemoveFriend; when it does not, they were none and are none. -/
structure NewStatus (kind : Kind) (rel : Option (UInt8 × UInt8)) (st : UInt8 × UInt8) : Prop where
  plain : PlainStatus st
  touched : touchesMaps kind st.2 = true → (BothFriends st ↔ kind = .add)
  untouched : touchesMaps kind st.2 = false → ¬ BothFriends st ∧
    ∀ old, rel = some old → ¬ BothFriends old

theorem newStatus_spec (hrel : ∀ old, rel = some old → PlainStatus old)
    (h : newStatus kind rel = .ok st) : NewStatus kind rel st := by
  cases rel with
  | none =>
    cases kind with
    | add =>
      cases h
      exact ⟨by decide, by decide, fun _ => ⟨by decide, fun _ h => by cases h⟩⟩
    | remove => cases h
  | some old =>
    -- four rows are possible; the decisions of the source are evaluated on each
    obtain ⟨a, b⟩ := old
    obtain ⟨ha, hb⟩ := hrel (a, b) rfl
    dsimp only at ha hb
    rcases ha with rfl | rfl <;> rcases hb with rfl | rfl <;> cases kind <;> cases h <;>
      refine ⟨by decide, by decide, fun ht => ⟨?_, fun old hold => ?_⟩⟩ <;>
      first
      | decide
      | (cases hold
         decide)
      | cases ht

theorem mem_edit {k x : UserId} :
    x ∈ (edit kind k npid info).friends.keys ↔
      if x = k then kind = .add else x ∈ info.friends.keys := by
  cases kind with
  | add =>
    rw [edit, keys_insert, Finset.mem_insert]
    by_cases e : x = k <;> simp [e]
  | remove =>
    rw [edit, keys_remove, Finset.mem_erase]
    by_cases e : x = k <;> simp [e]

theorem Right.edit {w : UserId} (h : Right db u info.friends)
    (hpair : db'.Mutual u w ↔ kind = .add)
    (hother : ∀ x, x ≠ w → (db'.Mutual u x ↔ db.Mutual u x)) :
    Right db' u (Friend.edit kind w npid info).friends := by
  intro x
  rw [mem_edit]
  by_cases e : x = w
  · rw [if_pos e, e]
    exact hpair.symm
  · rw [if_neg e]
    exact (h x).trans (hother x e).symm

theorem plain_setRelStatus (h : db.PlainRows) (hst : PlainStatus st)
    (hdb : db.setRelStatus u v st.1 st.2 = .ok db') : db'.PlainRows := by
  obtain ⟨_, _, _, hf⟩ := setRelStatus_ok hdb
  intro k s hk
  rw [hf, get?_insert] at hk
  split at hk
  · cases hk
    unfold swapIf
    split
    · exact ⟨hst.2, hst.1⟩
    · exact hst
  · exact h k s hk

theorem afterWrite_agree (h : Agree s) (hne : v ≠ r.me.userId)
    (hrel : s.db.rel r.me.userId v = rel) (hst : newStatus r.kind rel = .ok (su, sf))
    (hdb : s.db.setRelStatus r.me.userId v su sf = .ok db) : Agree (afterWrite r v sf s db) := by
  have hnew : NewStatus r.kind rel (su, sf) :=
    newStatus_spec (fun old hold => h.plain.rel (hrel.trans hold)) hst
  have hplain := plain_setRelStatus h.plain hnew.plain hdb
  obtain ⟨hpair, hother⟩ := mutual_setRelStatus hdb
  unfold afterWrite
  split
  · rename_i ht
    have hadd : db.Mutual r.me.userId v ↔ r.kind = .add := hpair.trans (hnew.touched ht)
    refine ⟨hplain, fun {w info} hw => ?_⟩
    have hget : ((s.clientInfos.modify r.me.userId (edit r.kind v r.friendNpid)).modify v
        (edit r.kind r.me.userId r.me.npid)).get? w = some info := hw
    rw [get?_modify] at hget
    by_cases hwv : w = v
    · rw [if_pos hwv, get?_modify, if_neg hne] at hget
      obtain ⟨info₀, h₀, rfl⟩ := Option.map_eq_some_iff.mp hget
      rw [hwv]
      refine (h.right h₀).edit (mutual_symm.trans hadd) fun x hx => ?_
      exact hother v x (fun e => hne e.1) fun e => hx e.2
    · rw [if_neg hwv, get?_modify] at hget
      by_cases hwm : w = r.me.userId
      · rw [if_pos hwm] at hget
        obtain ⟨info₀, h₀, rfl⟩ := Option.map_eq_some_iff.mp hget
        rw [hwm]
        refine (h.right h₀).edit hadd fun x hx => ?_
        exact hother _ x (fun e => hx e.2) fun e => hne e.1.symm
      · rw [if_neg hwm] at hget
        intro x
        exact (h.right hget x).trans (hother w x (fun e => hwm e.1) fun e => hwv e.1).symm
  · rename_i ht
    obtain ⟨hafter, hbefore⟩ := hnew.untouched (Bool.eq_false_iff.mpr ht)
    refine ⟨hplain, fun {w info} hw => ?_⟩
    have hno : ¬ db.Mutual r.me.userId v := fun hm => hafter (hpair.mp hm)
    have hold : ¬ s.db.Mutual r.me.userId v := by
      rw [mutual_iff]
      intro ⟨a, b, hab, ha, hb⟩
      exact hbefore (a, b) (hrel.symm.trans hab) ⟨ha, hb⟩
    intro x
    refine (h.right hw x).trans ?_
    show s.db.Mutual w x ↔ db.Mutual w x
    by_cases h₁ : w = r.me.userId ∧ x = v
    · rw [h₁.1, h₁.2]
      exact iff_of_false hold hno
    · by_cases h₂ : w = v ∧ x = r.me.userId
      · rw [h₂.1, h₂.2, mutual_symm, @Account.Database.mutual_symm db]
        exact iff_of_false hold hno
      · exact (hother w x h₁ h₂).symm

end Requests

theorem relOf_eq (h : u ≠ v) : relOf db u v = .ok (db.rel u v) := by
  unfold relOf
  rw [getRelStatus_eq h]
  cases db.rel u v <;> rfl

theorem serve_agree (h : Agree s) (r : FriendRequest) : Agree (r.serve s).2 := by
  have he := serve_effect s r
  generalize (r.serve s).1 = reply at he
  generalize (r.serve s).2 = s' at he
  cases he with
  | written v rel su sf db hv hne hrel hst hdb =>
    rw [relOf_eq (Ne.symm hne)] at hrel
    exact afterWrite_agree h hne (Except.ok.inj hrel) hst hdb
  | _ => exact h

/-! ## 5. Runs -/

section Server

variable {cfg : Config} {db : Account.Database} {es : List (FriendOp × Unit)} {s : SharedData}

theorem FriendOp.serve_agree (h : Agree s) {op : FriendOp} (hs : op.serve cfg s = some ((), s')) :
    Agree s' := by
  cases op with
  | login i name password token chs =>
    simp only [FriendOp.serve] at hs
    split at hs <;> cases hs
    exact login_agree h i name password token chs
  | logout i c chs =>
    simp only [FriendOp.serve] at hs
    split at hs <;> cases hs
    exact logout_agree h i c chs
  | friend r =>
    cases hs
    exact Friend.serve_agree h r

theorem agree_of_run (hdb : db.PlainRows) (h : (friendServer cfg db).Run es s) : Agree s := by
  unfold friendServer at h
  refine h.carried (I := fun _ s => Agree s) ⟨hdb, fun hu => by cases hu⟩ ?_
  exact fun es s op e s' _ hI hs => FriendOp.serve_agree hI hs

/-- **In-memory friends equal database friends**, after each request: for everyone who is online, the
    keys of the friend map are those whose row has `Friend` in both directions; so between two who are
    online the maps are symmetric. -/
theorem friends_in_memory_eq_database (hdb : db.PlainRows) (h : (friendServer cfg db).Run es s) :
    (∀ u info, s.clientInfos.get? u = some info →
      ∀ v, v ∈ info.friends.keys ↔ s.db.Mutual u v) ∧
    ∀ u v infoU infoV, s.clientInfos.get? u = some infoU → s.clientInfos.get? v = some infoV →
      (v ∈ infoU.friends.keys ↔ u ∈ infoV.friends.keys) := by
  have hagree := agree_of_run hdb h
  refine ⟨fun u info hu => hagree.right hu, fun u v infoU infoV hu hv => ?_⟩
  exact ((hagree.right hu v).trans Account.Database.mutual_symm).trans (hagree.right hv u).symm

end Server

def eightSteps : List Choice := List.replicate 8 {}

def addEachOther : List FriendOp :=
  [.login 1 "ada" "" "" eightSteps, .login 2 "bob" "" "" eightSteps,
    .friend ⟨.add, ⟨1, "ada", "ada", ""⟩, "bob"⟩, .friend ⟨.add, ⟨2, "bob", "bob", ""⟩, "ada"⟩]

theorem friends_in_memory_eq_database_added :
    ∃ es s info, (friendServer Session.openConfig Session.twoAccounts).Run es s ∧
      s.clientInfos.get? 1 = some info ∧ 2 ∈ info.friends.keys ∧ s.db.Mutual 1 2 := by
  have hrun : (System.execute (FriendOp.serve Session.openConfig) (.start Session.twoAccounts)
      addEachOther).map (fun r => (r.2.clientInfos.get? 1).map fun info => info.friends.keys) =
      some (some {2}) := by
    decide +kernel
  obtain ⟨r, hr, hkeys⟩ := Option.map_eq_some_iff.mp hrun
  obtain ⟨info, hinfo, hk⟩ := Option.map_eq_some_iff.mp hkeys
  have h : (friendServer Session.openConfig Session.twoAccounts).Run r.1 r.2 :=
    System.Run.start.execute hr
  have hmem : (2 : UserId) ∈ info.friends.keys := by
    rw [hk]
    exact Finset.mem_singleton_self 2
  have hplain : Session.twoAccounts.PlainRows := by
    intro k st hk
    have hnone : Session.twoAccounts.friendship = ∅ := by decide +kernel
    rw [hnone] at hk
    cases hk
  exact ⟨r.1, r.2, info, h, hinfo, hmem,
    ((friends_in_memory_eq_database hplain h).1 1 info hinfo 2).mp hmem⟩

end Rpcn.Friend
