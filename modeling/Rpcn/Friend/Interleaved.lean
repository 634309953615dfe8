/-
  File:      Rpcn/Friend/Interleaved.lean
  Subject:   FRIEND REQUESTS AT THE SAME TIME.

  Each request reads the row, writes what it made of it, and then changes the two maps, with nothing
  held in between. Two requests that both read before either writes lose one of the writes; two whose
  changes of the maps cross leave maps that no order of the two leaves.
-/
import Rpcn.Friend.Copies
import Rpcn.Lib.Linearize

namespace Rpcn.Friend

open Lib Account Account.Database Session
open Session (SharedData ClientSharedInfo)

/-! ## 1. Requests in between one another -/

abbrev FriendTask := FriendRequest × FriendPc

abbrev FriendPool := Pool SharedData FriendTask

def friendAct (p : FriendPool) (i : Nat) : Option (Unit × FriendPool) :=
  p.act i fun s t => (friendStep t.1 s t.2).map fun x => ((), x.1, (t.1, x.2))

/-- **Requests that arrive at the same time**, and any interleaving of their steps. -/
def friendPool (s : SharedData) (rs : List FriendRequest) : System FriendPool Nat Unit :=
  .ofPartial ⟨s, rs.map fun r => (r, .received)⟩ friendAct

def rowOf (u v : UserId) : UserId × UserId :=
  ((Account.Database.getOrderedUserids u v).1, (Account.Database.getOrderedUserids u v).2.1)

/-- The row that a request has written and whose maps it has still to change. -/
def pendingRow (t : FriendTask) : Option (UserId × UserId) :=
  match t.2 with
  | .own v => some (rowOf t.1.me.userId v)
  | .other v => some (rowOf t.1.me.userId v)
  | _ => none

/-- If the step is a write, the row is still as it was read, and no request has still to change the
    maps for it. -/
def WriteGuard (p : FriendPool) (i : Nat) : Prop :=
  ∀ r v rel, p.tasks[i]? = some (r, .read v rel) →
    relOf p.shared.db r.me.userId v = .ok rel ∧
    ∀ t ∈ p.tasks, pendingRow t ≠ some (rowOf r.me.userId v)

/-! ## 2. What is left of a request -/

def setMap (kind : Kind) (userId key : UserId) (npid : String) (s : SharedData) : SharedData :=
  { s with clientInfos := s.clientInfos.modify userId (edit kind key npid) }

def ownMap (r : FriendRequest) (v : UserId) : SharedData → SharedData :=
  setMap r.kind r.me.userId v r.friendNpid

def otherMap (r : FriendRequest) (v : UserId) : SharedData → SharedData :=
  setMap r.kind v r.me.userId r.me.npid

/-- **What a request has left to do once its row is written.** -/
def finish (t : FriendTask) : SharedData → SharedData :=
  match t.2 with
  | .own v => otherMap t.1 v ∘ ownMap t.1 v
  | .other v => otherMap t.1 v
  | _ => id

variable {v : UserId}

section Commute

variable {k k' : Kind} {u u' a a' v : UserId} {npid npid' : String} {r : FriendRequest}
  {t t' : FriendTask}

theorem get?_edit (info : ClientSharedInfo) (x : UserId) :
    (edit k a npid info).friends.get? x =
      if x = a then (if k = .add then some npid else none) else info.friends.get? x := by
  cases k with
  | add => exact HashMap.get?_insert _ _ _ _
  | remove => exact HashMap.get?_remove _ _ _

theorem edit_comm (h : a ≠ a') (info : ClientSharedInfo) :
    edit k a npid (edit k' a' npid' info) = edit k' a' npid' (edit k a npid info) := by
  have hmap : (edit k a npid (edit k' a' npid' info)).friends =
      (edit k' a' npid' (edit k a npid info)).friends := by
    refine HashMap.ext fun x => ?_
    rw [get?_edit, get?_edit, get?_edit, get?_edit]
    by_cases e : x = a
    · rw [if_pos e, if_neg (fun e' => h (e.symm.trans e')), if_pos e]
    · rw [if_neg e, if_neg e]
  cases k <;> cases k' <;> exact congrArg (fun m => { info with friends := m }) hmap

theorem setMap_commute (h : u = u' → a ≠ a') :
    Function.Commute (setMap k u a npid) (setMap k' u' a' npid') := by
  intro s
  have hinfos : (s.clientInfos.modify u' (edit k' a' npid')).modify u (edit k a npid) =
      (s.clientInfos.modify u (edit k a npid)).modify u' (edit k' a' npid') := by
    refine HashMap.ext fun x => ?_
    simp only [HashMap.get?_modify]
    by_cases e : u = u'
    · subst e
      cases s.clientInfos.get? u <;> split <;> simp [edit_comm (h rfl)]
    · by_cases hx : x = u
      · rw [if_pos hx, if_neg e, if_neg (fun h => e (hx.symm.trans h)), if_pos hx]
      · rw [if_neg hx, if_neg hx, if_neg (Ne.symm e)]
  exact congrArg (fun infos => { s with clientInfos := infos }) hinfos

theorem rowOf_comm (u v : UserId) : rowOf u v = rowOf v u := by
  unfold rowOf getOrderedUserids
  split <;> split
  · exact absurd ‹v < u› (lt_asymm ‹u < v›)
  · rfl
  · rfl
  · rw [le_antisymm (not_lt.mp ‹¬ v < u›) (not_lt.mp ‹¬ u < v›)]

theorem maps_commute {r r' : FriendRequest} {v' : UserId}
    (h : rowOf r.me.userId v ≠ rowOf r'.me.userId v') :
    Function.Commute (ownMap r v) (ownMap r' v') ∧ Function.Commute (ownMap r v) (otherMap r' v') ∧
    Function.Commute (otherMap r v) (ownMap r' v') ∧
    Function.Commute (otherMap r v) (otherMap r' v') := by
  refine ⟨setMap_commute fun e e' => ?_, setMap_commute fun e e' => ?_,
    setMap_commute fun e e' => ?_, setMap_commute fun e e' => ?_⟩
  · exact h (by rw [e, e'])
  · exact h (by rw [e, e', rowOf_comm])
  · exact h (by rw [e, e', rowOf_comm])
  · exact h (by rw [e, e'])

theorem finish_of_pendingRow (h : pendingRow t = none) : finish t = id := by
  obtain ⟨r, pc⟩ := t
  cases pc with
  | own v => cases h
  | other v => cases h
  | _ => rfl

theorem finish_commute (h : ∀ k, pendingRow t = some k → pendingRow t' ≠ some k) :
    Function.Commute (finish t) (finish t') := by
  obtain ⟨r, pc⟩ := t
  obtain ⟨r', pc'⟩ := t'
  have hrow : ∀ {v v'}, pendingRow (r, pc) = some (rowOf r.me.userId v) →
      pendingRow (r', pc') = some (rowOf r'.me.userId v') →
      rowOf r.me.userId v ≠ rowOf r'.me.userId v' :=
    fun ht ht' e => h _ ht (e ▸ ht')
  cases pc with
  | own v =>
    cases pc' with
    | own v' =>
      obtain ⟨h₁, h₂, h₃, h₄⟩ := maps_commute (hrow rfl rfl)
      exact (h₄.comp_right h₃).comp_left (h₂.comp_right h₁)
    | other v' =>
      obtain ⟨h₁, h₂, h₃, h₄⟩ := maps_commute (hrow rfl rfl)
      exact h₄.comp_left h₂
    | _ => exact Function.Commute.id_right
  | other v =>
    cases pc' with
    | own v' =>
      obtain ⟨h₁, h₂, h₃, h₄⟩ := maps_commute (hrow rfl rfl)
      exact h₄.comp_right h₃
    | other v' => exact (maps_commute (hrow rfl rfl)).2.2.2
    | _ => exact Function.Commute.id_right
  | _ => exact Function.Commute.id_left

theorem finish_db (db : Account.Database) (t : FriendTask) :
    Function.Commute (fun s : SharedData => { s with db }) (finish t) := by
  obtain ⟨r, pc⟩ := t
  cases pc <;> exact fun _ => rfl

theorem db_settle (tasks : List FriendTask) (s : SharedData) : (settle finish tasks s).db = s.db := by
  have h : { settle finish tasks s with db := s.db } = settle finish tasks s :=
    settle_commute (fun t _ => finish_db s.db t) s
  exact (congrArg SharedData.db h).symm

end Commute

/-! ## 3. Steps -/

def FriendPc.friend : FriendPc → Option UserId
  | .found v => some v
  | .read v _ => some v
  | _ => none

def Located (s : SharedData) (_ : Nat) (t : FriendTask) : Prop :=
  ∀ v, t.2.friend = some v → s.db.getUserId t.1.friendNpid = .ok v ∧ v ≠ t.1.me.userId

/-- **What one step of a request is**, when a row is written as it was read: a look that settles
    nothing, a look that settles the reply, a write, or a change of a map. -/
inductive Stepped (r : FriendRequest) (s : SharedData) :
    FriendPc → SharedData → FriendPc → Prop where
  | looked (pc pc' : FriendPc) (h : pc.reply = none) (h' : pc'.reply = none)
      (hfriend : ∀ v, pc'.friend = some v →
        s.db.getUserId r.friendNpid = .ok v ∧ v ≠ r.me.userId) : Stepped r s pc s pc'
  | refused (pc : FriendPc) (reply : Reply) (h : pc.reply = none)
      (he : ∀ a : SharedData, a.db = s.db → Effect a r reply a) : Stepped r s pc s (.done reply)
  | wrote (v : UserId) (rel : Option (UInt8 × UInt8)) (sf : UInt8) (db : Account.Database)
      (haccount : db.account = s.db.account)
      (he : ∀ a : SharedData, a.db = s.db → Effect a r (.ok .noError) (afterWrite r v sf a db)) :
      Stepped r s (.read v rel) { s with db }
        (if touchesMaps r.kind sf then .own v else .done (.ok .noError))
  | changedOwn (v : UserId) : Stepped r s (.own v) (ownMap r v s) (.other v)
  | changedOther (v : UserId) :
      Stepped r s (.other v) (otherMap r v s) (.done (.ok .noError))

variable {db : Account.Database}

variable {t : FriendTask}

section Step

variable {r : FriendRequest} {s s' : SharedData} {pc pc' : FriendPc}

variable {i : Nat}

theorem friendStep_stepped (hloc : Located s i (r, pc))
    (hrow : ∀ v rel, pc = .read v rel → relOf s.db r.me.userId v = .ok rel)
    (h : friendStep r s pc = some (s', pc')) : Stepped r s pc s' pc' := by
  cases pc with
  | received =>
    simp only [friendStep] at h
    split at h
    · rename_i e hv
      cases h
      exact .refused _ _ rfl fun a ha => .unknown e (ha ▸ hv)
    · rename_i v hv
      split at h
      · rename_i hme
        cases h
        exact .refused _ _ rfl fun a ha => .self (ha ▸ hme ▸ hv)
      · rename_i hne
        cases h
        refine .looked _ _ rfl rfl fun w hw => ?_
        cases hw
        exact ⟨hv, hne⟩
  | found v =>
    obtain ⟨hv, hne⟩ := hloc v rfl
    simp only [friendStep] at h
    split at h
    · rename_i e hrel
      cases h
      exact .refused _ _ rfl fun a ha => .unread v e (ha ▸ hv) hne (ha ▸ hrel)
    · rename_i rel hrel
      split at h
      · rename_i e hst
        cases h
        exact .refused _ _ rfl fun a ha => .refused v rel e (ha ▸ hv) hne (ha ▸ hrel) hst
      · cases h
        exact .looked _ _ rfl rfl fun w hw => hloc w hw
  | read v rel =>
    obtain ⟨hv, hne⟩ := hloc v rfl
    have hrel := hrow v rel rfl
    simp only [friendStep] at h
    split at h
    · rename_i e hst
      cases h
      exact .refused _ _ rfl fun a ha => .refused v rel e (ha ▸ hv) hne (ha ▸ hrel) hst
    · rename_i su sf hst
      split at h
      · rename_i e hdb
        cases h
        exact .refused _ _ rfl fun a ha =>
          .unwritten v rel su sf e (ha ▸ hv) hne (ha ▸ hrel) hst (ha ▸ hdb)
      · rename_i db hdb
        cases h
        exact .wrote v rel sf db (setRelStatus_ok hdb).2.1 fun a ha =>
          .written v rel su sf db (ha ▸ hv) hne (ha ▸ hrel) hst (ha ▸ hdb)
  | own v =>
    cases h
    exact .changedOwn v
  | other v =>
    cases h
    exact .changedOther v
  | done reply => cases h

theorem Stepped.account (h : Stepped r s pc s' pc') : s'.db.account = s.db.account := by
  cases h with
  | wrote v rel sf db haccount he => exact haccount
  | _ => rfl

theorem getUserId_congr {db' : Account.Database} (h : db'.account = db.account) (npid : String) :
    db'.getUserId npid = db.getUserId npid := by
  unfold getUserId selectUser
  rw [h]

theorem Located.congr (hdb : s'.db.account = s.db.account) (h : Located s i t) :
    Located s' i t := by
  intro v hv
  rw [getUserId_congr hdb]
  exact h v hv

theorem Stepped.located (h : Stepped r s pc s' pc') : Located s' i (r, pc') := by
  cases h with
  | looked pc pc' h h' hfriend => exact hfriend
  | refused pc reply h he => exact fun v hv => by cases hv
  | wrote v rel sf db haccount he =>
    split <;> exact fun v hv => by cases hv
  | changedOwn v => exact fun v hv => by cases hv
  | changedOther v => exact fun v hv => by cases hv

theorem pendingRow_of_reply (h : pc.reply = none) : pendingRow (r, pc) = none := by
  cases pc with
  | own v => cases h
  | other v => cases h
  | _ => rfl

def FriendTask.reply (t : FriendTask) : Option Reply := t.2.reply

theorem Stepped.point {rest : List FriendTask} (h : Stepped r s pc s' pc')
    (hcomm : ∀ u ∈ rest, Function.Commute (finish (r, pc')) (finish u)) :
    Point FriendRequest.serve Prod.fst FriendTask.reply (settle finish rest (finish (r, pc) s))
      (settle finish rest (finish (r, pc') s')) (r, pc) (r, pc') := by
  cases h with
  | looked pc pc' h h' hfriend =>
    refine .before h h' ?_
    rw [finish_of_pendingRow (pendingRow_of_reply h), finish_of_pendingRow (pendingRow_of_reply h')]
  | refused pc reply h he =>
    rw [finish_of_pendingRow (pendingRow_of_reply h)]
    exact .commit reply h rfl (he _ (db_settle rest s)).serve
  | wrote v rel sf db haccount he =>
    -- the write and the maps come after what is left of the others, or before it
    have hlast : settle finish rest (finish (r, if touchesMaps r.kind sf then .own v
        else .done (.ok .noError)) { s with db }) = afterWrite r v sf (settle finish rest s) db := by
      have hmove := settle_commute fun u hu => (hcomm u hu).comp_left (finish_db db u)
      refine (hmove s).symm.trans ?_
      unfold afterWrite
      split <;> rfl
    rw [hlast]
    refine .commit (.ok .noError) rfl ?_ (he _ (db_settle rest s)).serve
    unfold FriendTask.reply
    dsimp only
    split <;> rfl
  | changedOwn v => exact .after rfl rfl rfl
  | changedOther v => exact .after rfl rfl rfl

end Step

/-! ## 4. Runs -/

/-- **What holds throughout a run**: the requests past their points, in the order of the points, lead
    to the state that is left once all is done. -/
structure InOrder (s₀ : SharedData) (rs : List FriendRequest) (p : FriendPool) : Prop where
  requests : p.tasks.map Prod.fst = rs
  located : p.All Located
  apart : p.Apart pendingRow
  linear : Linear FriendRequest.serve Prod.fst FriendTask.reply s₀ p.tasks
    (settle finish p.tasks p.shared)

section Runs

variable {s₀ : SharedData} {rs : List FriendRequest} {p p' : FriendPool} {i : Nat}

theorem inOrder_start (s₀ : SharedData) (rs : List FriendRequest) :
    InOrder s₀ rs ⟨s₀, rs.map fun r => (r, .received)⟩ := by
  have htask : ∀ t ∈ rs.map fun r => ((r, .received) : FriendTask), t.2 = .received := by
    intro t ht
    obtain ⟨r, _, rfl⟩ := List.mem_map.mp ht
    rfl
  have hidle : settle finish (rs.map fun r => ((r, .received) : FriendTask)) s₀ = s₀ := by
    refine settle_idle fun t ht => ?_
    unfold finish
    rw [htask t ht]
  refine ⟨?_, ?_, ?_, ?_⟩
  · rw [List.map_map]
    exact List.map_id rs
  · intro i t hi v hv
    rw [htask t (List.mem_of_getElem? hi)] at hv
    cases hv
  · intro i j t u k hi _ hk
    unfold pendingRow at hk
    rw [htask t (List.mem_of_getElem? hi)] at hk
    cases hk
  · rw [hidle]
    refine Linear.start fun t ht => ?_
    unfold FriendTask.reply
    rw [htask t ht]
    rfl

theorem commute_of_apart (h : p.Apart pendingRow) (hi : p.tasks[i]? = some t) :
    ∀ u ∈ p.tasks.eraseIdx i, Function.Commute (finish t) (finish u) := by
  intro u hu
  obtain ⟨j, hne, hj⟩ := List.mem_eraseIdx_iff_getElem?.mp hu
  exact finish_commute fun k hk hk' => hne (h j i u t k hj hi hk' hk)

theorem Stepped.apart {r : FriendRequest} {s' : SharedData} {pc pc' : FriendPc}
    (hs : Stepped r p.shared pc s' pc') (h : p.Apart pendingRow) (hi : p.tasks[i]? = some (r, pc))
    (hg : WriteGuard p i) : (p.update i s' (r, pc')).Apart pendingRow := by
  refine h.update hi fun k hk => ?_
  cases hs with
  | looked pc pc' h h' hfriend =>
    rw [pendingRow_of_reply h'] at hk
    cases hk
  | refused pc reply h he => cases hk
  | wrote v rel sf db haccount he =>
    right
    intro j u _ hj
    have hrow : k = rowOf r.me.userId v := by
      split at hk
      · exact (Option.some.inj hk).symm
      · cases hk
    rw [hrow]
    exact (hg r v rel hi).2 u (List.mem_of_getElem? hj)
  | changedOwn v => exact Or.inl hk
  | changedOther v => cases hk

theorem InOrder.step (h : InOrder s₀ rs p) (hg : WriteGuard p i) {e : Unit}
    (hs : friendAct p i = some (e, p')) : InOrder s₀ rs p' := by
  obtain ⟨⟨r, pc⟩, _, _, hi, hact, rfl⟩ := Pool.act_eq_some hs
  obtain ⟨⟨s', pc'⟩, hf, heq⟩ := Option.map_eq_some_iff.mp hact
  cases heq
  have hstep : Stepped r p.shared pc s' pc' :=
    friendStep_stepped (h.located i _ hi) (fun v rel hpc => (hg r v rel (hpc ▸ hi)).1) hf
  have hapart := hstep.apart h.apart hi hg
  have hlt : i < p.tasks.length := (List.getElem?_eq_some_iff.mp hi).1
  refine ⟨?_, ?_, hapart, ?_⟩
  · show (p.tasks.set i (r, pc')).map Prod.fst = rs
    rw [List.map_set, ← h.requests]
    refine List.ext_getElem? fun j => ?_
    rw [List.getElem?_set]
    split
    · rename_i e
      rw [← e, if_pos (by rwa [List.length_map]), List.getElem?_map, hi]
      rfl
    · rfl
  · exact h.located.update hstep.located fun j u _ _ hu => hu.congr hstep.account
  · have hcomm' := commute_of_apart hapart (Pool.get_update_self hi)
    have herase : (p.tasks.set i (r, pc')).eraseIdx i = p.tasks.eraseIdx i :=
      List.eraseIdx_set_eq
    rw [Pool.update, herase] at hcomm'
    have hpoint := hstep.point hcomm'
    rw [← settle_eq hi (commute_of_apart h.apart hi), ← settle_set hlt hcomm'] at hpoint
    exact h.linear.step hi rfl hpoint

end Runs

/-! ## 5. Users who add each other -/

def Asked (db : Account.Database) (u v : UserId) : Prop :=
  ∃ st, db.rel u v = some st ∧ st.1 &&& Account.Database.friendStatusFriend ≠ 0

structure AddEachOther (db : Account.Database) (a b : FriendRequest) : Prop where
  plain : db.PlainRows
  kinds : a.kind = .add ∧ b.kind = .add
  found : db.getUserId a.friendNpid = .ok b.me.userId ∧ db.getUserId b.friendNpid = .ok a.me.userId
  ne : a.me.userId ≠ b.me.userId

variable {rel : Option (UInt8 × UInt8)}

section Add

variable {s : SharedData} {r : FriendRequest} {v : UserId}

variable {u : UserId}

theorem mutual_of_asked (hne : u ≠ v) (hu : Asked db u v) (hv : Asked db v u) : db.Mutual u v := by
  obtain ⟨⟨x, y⟩, hxy, hx⟩ := hu
  obtain ⟨st, hst, hy⟩ := hv
  rw [rel_symm hne, hxy] at hst
  cases hst
  exact mutual_iff.mpr ⟨x, y, hxy, hx, hy⟩

theorem addStatus_spec (hrel : ∀ old, rel = some old → PlainStatus old) :
    (∀ e, addStatus rel = .error e →
      ∃ old, rel = some old ∧ old.1 &&& friendStatusFriend ≠ 0) ∧
    ∀ st, addStatus rel = .ok st → st.1 &&& friendStatusFriend ≠ 0 ∧
      ∀ old, rel = some old → st.2 = old.2 := by
  cases rel with
  | none =>
    refine ⟨fun e he => (by cases he), fun st hst => ?_⟩
    cases hst
    exact ⟨by decide, fun old hold => by cases hold⟩
  | some old =>
    obtain ⟨a, b⟩ := old
    obtain ⟨ha, hb⟩ := hrel (a, b) rfl
    dsimp only at ha hb
    rcases ha with rfl | rfl <;> rcases hb with rfl | rfl <;>
      refine ⟨fun e he => ?_, fun st hst => ?_⟩ <;>
      first
      | cases he
        exact ⟨_, rfl, by decide⟩
      | cases hst
        exact ⟨by decide, fun old hold => by cases hold; rfl⟩
      | cases he
      | cases hst

theorem setRelStatus_total (hne : u ≠ v) (hu : u ∈ db.account.keys) (hv : v ∈ db.account.keys)
    (su sv : UInt8) (e : DbError) : db.setRelStatus u v su sv ≠ .error e := by
  intro h
  unfold setRelStatus at h
  rw [dif_neg hne] at h
  unfold replaceFriendship at h
  split at h
  · cases h
  · rename_i hno
    refine hno ?_
    unfold getOrderedUserids
    split
    · exact ⟨hu, hv⟩
    · exact ⟨hv, hu⟩

theorem afterWrite_db (r : FriendRequest) (v : UserId) (sf : UInt8) (s : SharedData)
    (db : Account.Database) : (afterWrite r v sf s db).db = db := by
  unfold afterWrite
  split <;> rfl

theorem serve_account (s : SharedData) (r : FriendRequest) :
    (r.serve s).2.db.account = s.db.account := by
  have he := serve_effect s r
  generalize (r.serve s).1 = reply at he
  generalize (r.serve s).2 = s' at he
  cases he with
  | written v rel su sf db hv hne hrel hst hdb =>
    rw [afterWrite_db]
    exact (setRelStatus_ok hdb).2.1
  | _ => rfl

theorem serve_plain (h : s.db.PlainRows) (r : FriendRequest) : (r.serve s).2.db.PlainRows := by
  have he := serve_effect s r
  generalize (r.serve s).1 = reply at he
  generalize (r.serve s).2 = s' at he
  cases he with
  | written v rel su sf db hv hne hrel hst hdb =>
    rw [relOf_eq (Ne.symm hne)] at hrel
    rw [afterWrite_db]
    have hnew := newStatus_spec (fun old hold => h.rel ((Except.ok.inj hrel).trans hold)) hst
    exact plain_setRelStatus h hnew.plain hdb
  | _ => exact h

theorem serve_add (hkind : r.kind = .add) (hplain : s.db.PlainRows)
    (hv : s.db.getUserId r.friendNpid = .ok v) (hne : v ≠ r.me.userId)
    (hme : r.me.userId ∈ s.db.account.keys) (hfriend : v ∈ s.db.account.keys) :
    Asked (r.serve s).2.db r.me.userId v ∧
    (Asked s.db v r.me.userId → Asked (r.serve s).2.db v r.me.userId) := by
  have he := serve_effect s r
  generalize (r.serve s).1 = reply at he
  generalize (r.serve s).2 = s' at he
  cases he with
  | unknown e hv' => rw [hv] at hv'; cases hv'
  | self hv' => rw [hv] at hv'; exact absurd (Except.ok.inj hv') hne
  | unread w e hv' hne' hrel => rw [relOf_eq (Ne.symm hne')] at hrel; cases hrel
  | refused w rel e hv' hne' hrel hst =>
    rw [hv] at hv'
    cases hv'
    rw [relOf_eq (Ne.symm hne)] at hrel
    rw [hkind] at hst
    have hspec := addStatus_spec fun old hold => hplain.rel ((Except.ok.inj hrel).trans hold)
    obtain ⟨old, hold, hbit⟩ := hspec.1 e hst
    exact ⟨⟨old, (Except.ok.inj hrel).trans hold, hbit⟩, id⟩
  | unwritten w rel su sf e hv' hne' hrel hst hdb =>
    rw [hv] at hv'
    cases hv'
    exact absurd hdb (setRelStatus_total (Ne.symm hne) hme hfriend su sf e)
  | written w rel su sf db hv' hne' hrel hst hdb =>
    rw [hv] at hv'
    cases hv'
    rw [relOf_eq (Ne.symm hne)] at hrel
    rw [hkind] at hst
    have hspec := addStatus_spec fun old hold => hplain.rel ((Except.ok.inj hrel).trans hold)
    obtain ⟨hbit, hkeep⟩ := hspec.2 _ hst
    have hnew := (rel_setRelStatus hdb).1
    rw [afterWrite_db]
    refine ⟨⟨_, hnew, hbit⟩, fun ⟨old, hold, hold'⟩ => ?_⟩
    rw [rel_symm (Ne.symm hne), Except.ok.inj hrel] at hold
    obtain ⟨st, rfl, rfl⟩ := Option.map_eq_some_iff.mp hold
    refine ⟨(sf, su), ?_, ?_⟩
    · rw [rel_symm (Ne.symm hne), hnew]
      rfl
    · rw [show sf = st.2 from hkeep st rfl]
      exact hold'

theorem mem_account_of_getUserId {npid : String} (h : db.getUserId npid = .ok u) :
    u ∈ db.account.keys := by
  obtain ⟨row, hrow, _⟩ := getUserId_ok h
  exact HashMap.mem_keys.mpr ⟨row, hrow⟩

theorem mutual_of_adds {a b : FriendRequest} (h : AddEachOther s.db a b) :
    (b.serve (a.serve s).2).2.db.Mutual a.me.userId b.me.userId := by
  have haccount := serve_account s a
  have ha := mem_account_of_getUserId h.found.2
  have hb := mem_account_of_getUserId h.found.1
  obtain ⟨hfirst, _⟩ := serve_add h.kinds.1 h.plain h.found.1 (Ne.symm h.ne) ha hb
  obtain ⟨hsecond, hkept⟩ := serve_add h.kinds.2 (serve_plain h.plain a)
    ((getUserId_congr haccount _).trans h.found.2) h.ne (haccount ▸ hb) (haccount ▸ ha)
  exact mutual_of_asked h.ne (hkept hfirst) hsecond

theorem AddEachOther.symm {a b : FriendRequest} (h : AddEachOther db a b) : AddEachOther db b a :=
  ⟨h.plain, h.kinds.symm, h.found.symm, Ne.symm h.ne⟩

end Add

/-! ## 6. The result -/

section Result

variable {s : SharedData} {rs : List FriendRequest} {es : List (Nat × Unit)} {p : FriendPool}

theorem inOrder_of_run (h : ((friendPool s rs).restrict WriteGuard).Run es p) : InOrder s rs p := by
  unfold friendPool at h
  refine h.carried_restrict (I := fun _ p => InOrder s rs p) (inOrder_start s rs) ?_
  intro es p i e p' _ hg hI hs
  exact hI.step hg hs

/-- **Friend requests are linearizable**, where every row is written as it was read and with no
    change of the maps for it outstanding: once all are through, some order of the requests, served
    one after the other, gives the same replies, the same rows and the same maps. So users who add
    each other are friends. -/
theorem friend_requests_linearizable (h : ((friendPool s rs).restrict WriteGuard).Run es p)
    (hdone : ∀ t ∈ p.tasks, ∃ reply, t.2 = .done reply) :
    (∃ order : List (FriendRequest × Reply),
      (order.map fun x => (x.1, FriendPc.done x.2)).Perm p.tasks ∧ (order.map (·.1)).Perm rs ∧
      serial FriendRequest.serve s (order.map (·.1)) = (order.map (·.2), p.shared)) ∧
    ∀ a b, rs = [a, b] → AddEachOther s.db a b →
      p.shared.db.Mutual a.me.userId b.me.userId := by
  have hI := inOrder_of_run h
  have hreply : ∀ t ∈ p.tasks, (FriendTask.reply t).isSome := by
    intro t ht
    obtain ⟨reply, hr⟩ := hdone t ht
    rw [FriendTask.reply, hr]
    rfl
  have hsettled : settle finish p.tasks p.shared = p.shared := by
    refine settle_idle fun t ht => ?_
    obtain ⟨reply, hr⟩ := hdone t ht
    unfold finish
    rw [hr]
  obtain ⟨order, hperm, hserial⟩ := hI.linear.done hreply
  rw [hsettled] at hserial
  have hrs : (order.map (·.1)).Perm rs := by
    have := hperm.map Prod.fst
    rw [List.map_map, List.map_map] at this
    rw [← hI.requests]
    exact this
  have htask : ∀ t ∈ p.tasks,
      ((fun x : FriendRequest × Option Reply => (x.1, (x.2.map FriendPc.done).getD .received)) ∘
        fun t : FriendTask => (t.1, FriendTask.reply t)) t = id t := by
    intro t ht
    obtain ⟨reply, hr⟩ := hdone t ht
    refine Prod.ext rfl ?_
    show ((t.2.reply.map FriendPc.done).getD .received) = t.2
    rw [hr]
    rfl
  refine ⟨⟨order, ?_, hrs, hserial⟩, fun a b hab hadd => ?_⟩
  · have := hperm.map fun x => (x.1, (x.2.map FriendPc.done).getD .received)
    rw [List.map_map, List.map_map, List.map_congr_left htask, List.map_id] at this
    exact this
  · rw [hab] at hrs
    have hlast := congrArg (fun x => x.2.db) hserial
    rcases List.pair_perm.mp hrs.symm with e | e <;> rw [e] at hlast
    · rw [← show _ = p.shared.db from hlast]
      exact mutual_of_adds hadd
    · rw [← show _ = p.shared.db from hlast]
      exact Account.Database.mutual_symm.mp (mutual_of_adds hadd.symm)

end Result

def writeGuard (p : FriendPool) (i : Nat) : Bool :=
  match p.tasks[i]? with
  | some (r, .read v rel) =>
    decide (p.shared.db.rel r.me.userId v = rel) && decide (r.me.userId ≠ v) &&
      p.tasks.all fun t => pendingRow t != some (rowOf r.me.userId v)
  | _ => true

theorem writeGuard_spec (p : FriendPool) (i : Nat) (h : writeGuard p i = true) : WriteGuard p i := by
  intro r v rel hi
  simp only [writeGuard, hi, Bool.and_eq_true, decide_eq_true_eq, List.all_eq_true, bne_iff_ne] at h
  exact ⟨by rw [relOf_eq h.1.2, h.1.1], h.2⟩

def bothLoggedIn : SharedData :=
  (Friend.login Session.openConfig
    (Friend.login Session.openConfig (.start Session.twoAccounts) 1 "ada" "" "" eightSteps).1
    2 "bob" "" "" eightSteps).1

theorem serve_login {cfg : Config} {s : SharedData} {i : Nat} {name password token : String}
    {chs : List Choice}
    (h : atRest (Friend.login cfg s i name password token chs).2 = true) :
    FriendOp.serve cfg s (.login i name password token chs) =
      some ((), (Friend.login cfg s i name password token chs).1) := by
  simp only [FriendOp.serve, h, if_true]

theorem bothLoggedIn_reachable :
    ∃ es, (friendServer openConfig twoAccounts).Run es bothLoggedIn := by
  have hfirst : FriendOp.serve openConfig (.start twoAccounts)
      (.login 1 "ada" "" "" eightSteps) = some ((),
        (Friend.login openConfig (.start twoAccounts) 1 "ada" "" "" eightSteps).1) :=
    serve_login (by decide +kernel)
  exact ⟨_, (System.Run.start.snoc hfirst).snoc (serve_login (by decide +kernel))⟩

def adaAddsBob : FriendRequest := ⟨.add, ⟨1, "ada", "ada", ""⟩, "bob"⟩

def bobAddsAda : FriendRequest := ⟨.add, ⟨2, "bob", "bob", ""⟩, "ada"⟩

def outcome (p : FriendPool) :
    Option (UInt8 × UInt8) × List (Option (Finset UserId)) × List FriendPc :=
  (p.shared.db.rel 1 2,
    [1, 2].map fun u => (p.shared.clientInfos.get? u).map fun info => info.friends.keys,
    p.tasks.map Prod.snd)

theorem done_of_outcome {p : FriendPool} {maps : List (Option (Finset UserId))} {reply : Reply}
    {n : Nat} (h : outcome p = (rel, maps, List.replicate n (.done reply))) :
    ∀ t ∈ p.tasks, t.2 = .done reply := by
  intro t ht
  have hmem : t.2 ∈ p.tasks.map Prod.snd := List.mem_map_of_mem ht
  rw [show p.tasks.map Prod.snd = _ from congrArg (fun x => x.2.2) h] at hmem
  exact List.eq_of_mem_replicate hmem

theorem friend_requests_linearizable_added :
    ∃ es p, ((friendPool bothLoggedIn [adaAddsBob, bobAddsAda]).restrict WriteGuard).Run es p ∧
      p.shared.db.Mutual 1 2 := by
  have hrun : (System.execute (fun p i => if writeGuard p i then friendAct p i else none)
      ⟨bothLoggedIn, [(adaAddsBob, .received), (bobAddsAda, .received)]⟩
      [0, 1, 0, 0, 1, 1, 1, 1]).map (fun r => outcome r.2) =
      some (some (1, 1), [some {2}, some {1}], List.replicate 2 (.done (.ok .noError))) := by
    decide +kernel
  obtain ⟨r, hr, hout⟩ := Option.map_eq_some_iff.mp hrun
  have h : ((friendPool bothLoggedIn [adaAddsBob, bobAddsAda]).restrict WriteGuard).Run r.1 r.2 :=
    System.Run.start.execute_restrict writeGuard_spec hr
  have hadd : AddEachOther bothLoggedIn.db adaAddsBob bobAddsAda := by
    refine ⟨?_, ⟨rfl, rfl⟩, ⟨?_, ?_⟩, by decide⟩
    · intro k st hk
      have hnone : bothLoggedIn.db.friendship = ∅ := by decide +kernel
      rw [hnone] at hk
      cases hk
    · decide +kernel
    · decide +kernel
  have hdone := done_of_outcome hout
  exact ⟨r.1, r.2, h, (friend_requests_linearizable h fun t ht => ⟨_, hdone t ht⟩).2
    adaAddsBob bobAddsAda rfl hadd⟩

/-- **Users who add each other at the same time need not be friends**: both requests read that there
    is no row, both are told of success, and the second write is all that is left. Either order of
    the two leaves another row. -/
theorem add_each_other_loses_one :
    (∃ es, (friendServer Session.openConfig Session.twoAccounts).Run es bothLoggedIn) ∧
    ∃ es p, (friendPool bothLoggedIn [adaAddsBob, bobAddsAda]).Run es p ∧
      (∀ t ∈ p.tasks, t.2 = .done (.ok .noError)) ∧ ¬ p.shared.db.Mutual 1 2 ∧
      ∀ order : List FriendRequest, order.Perm [adaAddsBob, bobAddsAda] →
        (serial FriendRequest.serve bothLoggedIn order).2.db.rel 1 2 ≠ p.shared.db.rel 1 2 := by
  have hrun : (System.execute friendAct
      ⟨bothLoggedIn, [(adaAddsBob, .received), (bobAddsAda, .received)]⟩
      [0, 1, 0, 1, 0, 1]).map (fun r => outcome r.2) =
      some (some (0, 1), [some ∅, some ∅], List.replicate 2 (.done (.ok .noError))) := by
    decide +kernel
  obtain ⟨r, hr, hout⟩ := Option.map_eq_some_iff.mp hrun
  have hrel : r.2.shared.db.rel 1 2 = some (0, 1) := congrArg (fun x => x.1) hout
  refine ⟨bothLoggedIn_reachable, r.1, r.2, System.Run.start.execute hr, done_of_outcome hout, ?_,
    fun order horder => ?_⟩
  · rw [Account.Database.mutual_iff, hrel]
    intro ⟨su, sv, hst, hsu, _⟩
    cases hst
    exact hsu rfl
  · rw [hrel]
    rcases List.pair_perm.mp horder.symm with rfl | rfl <;> decide +kernel

end Rpcn.Friend
