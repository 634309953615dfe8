/-
  File:      Rpcn/Rematch/Mutual.lean
  Subject:   ARE REMATCH PAIRS MUTUAL? Clients that leave rooms, search, come and go.

  `SharedData::new` is called once for every connection, so each connection has a map of pairs of
  its own: what a client registers when it leaves a room is seen by nobody else.
-/
import Rpcn.Rematch.Search
import Rpcn.Session.Steps

namespace Rpcn.Rematch

open Lib Np2Structs Call HashMap

/-! ## 1. Connections -/

abbrev RoomKey := ComId × UInt64

/-- Where a connection is. `rest` are the rooms that `clean_user_state` has yet to leave, `none` for
    a leave asked for by the client. -/
inductive Place where
  | idle
  /-- `clean_user_state`, before it reads the rooms of the user. -/
  | clean
  | leaving (rest : List RoomKey)
  /-- `leave_room` has looked at the room. -/
  | looked (key : RoomKey) (opponent : Option String) (rest : Option (List RoomKey))
  /-- `leave_room` is out of the room. -/
  | out (opponent : Option String) (rest : Option (List RoomKey))
  deriving DecidableEq

structure Connection where
  clientInfo : ClientInfo
  rematchPairs : RematchPairs
  connected : Bool
  place : Place
  deriving DecidableEq

abbrev Connection.npid (c : Connection) : String := c.clientInfo.npid

def Connection.lookup (c : Connection) (now : Nat) : Option String :=
  c.rematchPairs.lookup now c.npid

inductive Task where
  | client (c : Connection)
  | gone
  deriving DecidableEq

structure World where
  now : Nat
  roomManager : RoomManager

/-! ## 2. Steps -/

/-- `leave_room`, the look at the room: the other one of two members, or, for the last member, the
    opponent registered before. -/
def opponentOf (m : RoomManager) (c : Connection) (key : RoomKey) : Option String :=
  match m.rooms.get? key with
  | none => none
  | some room =>
    if room.users.size = 2 then
      (room.users.toList.find? fun p => p.2.userId ≠ c.clientInfo.userId).map (·.2.npid)
    else if room.users.size = 1 then
      (c.rematchPairs.get? c.npid).map (·.1)
    else none

/-- `leave_room`, the section under `room_manager.write()`: is the client out of the room? -/
def leave (m : RoomManager) (userId : UserId) (key : RoomKey) (random : Nat) : Bool × RoomManager :=
  match m.rooms.get? key with
  | none => (false, m)
  | some room =>
    match room.getMemberId userId with
    | .error _ => (false, m)
    | .ok _ =>
      let r := RoomManager.leaveRoom key.1 key.2 userId random m
      (r.1.isOk, r.2)

/-- `leave_room`, the registration of the pair, in both directions. -/
def RematchPairs.register (pairs : RematchPairs) (now : Nat) (npid : String) :
    Option String → RematchPairs
  | none => pairs
  | some opp => (pairs.insert npid (opp, now)).insert opp (npid, now)

def Place.after : Option (List RoomKey) → Place
  | none => .idle
  | some rest => .leaving rest

/-- `Drop for Client`, up to the spawn. -/
def Connection.drop (c : Connection) : Connection := { c with connected := false, place := .clean }

/-- A step is `none` where the connection is not at it. -/
abbrev Step := Option (Unit × World × Task)

def Connection.goes (c : Connection) (w : World) (place : Place) : Step :=
  some ((), w, .client { c with place })

def nextStep (order : List RoomKey) (random : Nat) (w : World) (c : Connection) : Step :=
  match c.place with
  | .idle => none
  | .clean =>
    if Orders order ((w.roomManager.getRoomsByUser c.clientInfo.userId).getD ∅) then
      c.goes w (.leaving order)
    else none
  | .leaving [] => if c.connected then c.goes w .idle else some ((), w, .gone)
  | .leaving (key :: rest) => c.goes w (.looked key (opponentOf w.roomManager c key) (some rest))
  | .looked key opponent rest =>
    let r := leave w.roomManager c.clientInfo.userId key random
    -- `RoomMissing`, or an error of `get_member_id` or `leave_room`: the function returns here
    c.goes { w with roomManager := r.2 } (if r.1 then .out opponent rest else .after rest)
  | .out opponent rest =>
    some ((), w, .client { c with
      rematchPairs := c.rematchPairs.register w.now c.npid opponent, place := .after rest })

def roomStep (op : RoomOp) (w : World) (c : Connection) : Step :=
  match op with
  | .leaveRoom _ _ _ _ => none
  | op =>
    if Session.RoomOp.MadeBy c.clientInfo op then
      c.goes { w with roomManager := (op.call w.roomManager).2 } .idle
    else none

/-- A `SearchRoom` request. A panic of the handler drops the client. -/
def searchStep (comId : ComId) (req : SearchRoomRequest) (order : List RoomKey) (ids : List UInt64)
    (w : World) (c : Connection) : Step :=
  if Orders order w.roomManager.rooms.keys ∧
      Orders ids (w.roomManager.searchList comId (effectiveRequest comId req)) then
    let r := reqSearchRoom w.roomManager c.npid w.now comId req order ids c.rematchPairs
    let c' := { c with rematchPairs := r.2 }
    some ((), w, .client (if r.1.isPanic then c'.drop else c'))
  else none

/-- A client is dropped while it waits: between two requests, or in the notifications of a
    `ResetState`. -/
def dropStep (w : World) (c : Connection) : Step :=
  match c.connected, c.place with
  | true, .idle => some ((), w, .client c.drop)
  | true, .leaving _ => some ((), w, .client c.drop)
  | _, _ => none

inductive RematchOp where
  | connect (clientInfo : ClientInfo)
  | room (i : Nat) (op : RoomOp)
  | leaveRoom (i : Nat) (key : RoomKey)
  | resetState (i : Nat)
  | search (i : Nat) (comId : ComId) (req : SearchRoomRequest) (order : List RoomKey)
      (ids : List UInt64)
  | next (i : Nat) (order : List RoomKey) (random : Nat)
  | drop (i : Nat)
  /-- Time passes. -/
  | tick (nanos : Nat)

abbrev Server := Pool World Task

def Task.isOf (userId : UserId) : Task → Bool
  | .client c => c.clientInfo.userId = userId
  | .gone => false

def Server.ofClient (p : Server) (i : Nat) (f : World → Connection → Step) :
    Option (Unit × Server) :=
  p.act i fun w t =>
    match t with
    | .client c => f w c
    | .gone => none

def onRequest (f : World → Connection → Step) (w : World) (c : Connection) : Step :=
  match c.place with
  | .idle => f w c
  | _ => none

def Server.serve (p : Server) : RematchOp → Option (Unit × Server)
  | .connect clientInfo =>
    if p.tasks.any (Task.isOf clientInfo.userId) then none
    else some ((), p.spawn (.client ⟨clientInfo, ∅, true, .idle⟩))
  | .room i op => p.ofClient i (onRequest (roomStep op))
  | .leaveRoom i key => p.ofClient i (onRequest fun w c =>
    c.goes w (.looked key (opponentOf w.roomManager c key) none))
  | .resetState i => p.ofClient i (onRequest fun w c => c.goes w .clean)
  | .search i comId req order ids => p.ofClient i (onRequest (searchStep comId req order ids))
  | .next i order random => p.ofClient i (nextStep order random)
  | .drop i => p.ofClient i dropStep
  | .tick nanos => some ((), ⟨{ p.shared with now := p.shared.now + nanos }, p.tasks⟩)

/-- **The server**: any number of clients, served in any order of their steps. -/
def rematchServer : System Server RematchOp Unit := .ofPartial ⟨⟨0, .new⟩, []⟩ Server.serve

/-! ## 3. Mutual pairs -/

structure Both (p : Server) (i j : Nat) (x y : Connection) : Prop where
  ne : i ≠ j
  left : p.tasks[i]? = some (.client x)
  right : p.tasks[j]? = some (.client y)
  left_connected : x.connected = true
  right_connected : y.connected = true

def Connection.waits (c : Connection) (now : Nat) : Prop :=
  ∃ opp, c.lookup now = some opp ∧ opp < c.npid

/-- **Rematch pairs are mutual**: an opponent that is connected looks up the client in turn, and
    exactly one of the two is told to wait. -/
def Mutual (p : Server) : Prop :=
  ∀ i j x y, Both p i j x y → x.lookup p.shared.now = some y.npid →
    y.lookup p.shared.now = some x.npid ∧ Xor (x.waits p.shared.now) (y.waits p.shared.now)

/-- **The condition on a step**: a pair is registered with nobody who is connected, and nobody
    connects whom a connected client would look up. -/
def PairGuard (p : Server) : RematchOp → Prop
  | .connect clientInfo => ∀ (i : Nat) (x : Connection), p.tasks[i]? = some (.client x) →
      x.connected = true → x.lookup p.shared.now ≠ some clientInfo.npid
  | .next i _ _ => ∀ j x y opp rest, Both p i j x y → x.place = .out (some opp) rest →
      opp ≠ y.npid
  | _ => True

/-! ## 4. What a step does to the pairs -/

def RematchPairs.Shrinks (pairs pairs' : RematchPairs) : Prop :=
  ∀ k v, pairs'.get? k = some v → pairs.get? k = some v

theorem RematchPairs.shrinks_expire (now : Nat) (pairs : RematchPairs) :
    pairs.Shrinks (pairs.expire now) :=
  fun _ _ h => (get?_retain_some.mp h).1

theorem RematchPairs.shrinks_settle (npid opp : String) (pairs : RematchPairs) :
    pairs.Shrinks (pairs.settle npid opp) := by
  intro k v h
  unfold settle at h
  rw [get?_remove] at h
  split at h
  · cases h
  · rw [get?_remove] at h
    split at h
    · cases h
    · exact h

theorem reqSearchRoom_shrinks (m : RoomManager) (npid : String) (now : Nat) (comId : ComId)
    (req : SearchRoomRequest) (order : List RoomKey) (ids : List UInt64) :
    Keeps RematchPairs.Shrinks (reqSearchRoom m npid now comId req order ids) := by
  have hR : ∀ pairs : RematchPairs, pairs.Shrinks pairs := fun _ _ _ h => h
  have hT : ∀ a b c : RematchPairs, a.Shrinks b → b.Shrinks c → a.Shrinks c :=
    fun _ _ _ hab hbc k v h => hab k v (hbc k v h)
  have hread : ∀ {α : Type} (o : SearchOutcome α),
      Keeps RematchPairs.Shrinks (ofOutcome o : Call _ _ RematchPairs α) :=
    fun _ pairs => hR pairs
  unfold reqSearchRoom
  refine keeps_bind hT (keeps_modify (RematchPairs.shrinks_expire now)) fun _ => ?_
  refine keeps_bind hT (keeps_read hR) fun pairs => ?_
  cases (pairs.get? npid).map (·.1) with
  | none => exact hread _
  | some opp =>
    dsimp only
    cases opponentRoom m order opp with
    | none => exact keeps_ite (keeps_pure hR _) (hread _)
    | some room =>
      refine keeps_bind hT (hread _) fun incAttrs => ?_
      refine keeps_bind hT (hread _) fun roomData => ?_
      refine keeps_bind hT (keeps_modify (RematchPairs.shrinks_settle npid opp))
        fun _ => ?_
      exact keeps_pure hR _

variable {pairs : RematchPairs} {now now' : Nat} {opp : String}

theorem RematchPairs.Shrinks.lookup {pairs' : RematchPairs} (h : pairs.Shrinks pairs')
    (hle : now ≤ now') {npid : String} (hl : pairs'.lookup now' npid = some opp) :
    pairs.lookup now npid = some opp := by
  obtain ⟨⟨o, t⟩, hget, rfl⟩ := Option.map_eq_some_iff.mp hl
  obtain ⟨hget, hfresh⟩ := get?_retain_some.mp hget
  refine Option.map_eq_some_iff.mpr ⟨(o, t), get?_retain_some.mpr ⟨h _ _ hget, ?_⟩, rfl⟩
  simp only [fresh, decide_eq_true_eq] at hfresh ⊢
  have : (now - t) / 1000000000 ≤ (now' - t) / 1000000000 :=
    Nat.div_le_div_right (Nat.sub_le_sub_right hle t)
  omega

theorem RematchPairs.lookup_register (pairs : RematchPairs) (now : Nat) (npid opp : String) :
    (pairs.register now npid (some opp)).lookup now npid = some opp := by
  have hfresh : fresh now now = true := by simp [fresh]
  have hget : ∃ e, (pairs.register now npid (some opp)).get? npid = some (e, now) ∧ e = opp := by
    unfold register
    rw [get?_insert]
    split
    · rename_i e
      exact ⟨npid, rfl, e⟩
    · exact ⟨opp, by rw [get?_insert, if_pos rfl], rfl⟩
  obtain ⟨e, hget, rfl⟩ := hget
  exact Option.map_eq_some_iff.mpr ⟨(e, now), get?_retain_some.mpr ⟨hget, hfresh⟩, rfl⟩

structure Connection.Shrinks (x x' : Connection) : Prop where
  clientInfo : x'.clientInfo = x.clientInfo
  connected : x'.connected = true → x.connected = true
  pairs : x.rematchPairs.Shrinks x'.rematchPairs

variable {x : Connection}

theorem Connection.Shrinks.lookup {x' : Connection} (h : x.Shrinks x') (hle : now ≤ now')
    (hl : x'.lookup now' = some opp) : x.lookup now = some opp := by
  unfold Connection.lookup at hl ⊢
  rw [Connection.npid, h.clientInfo] at hl
  exact h.pairs.lookup hle hl

theorem Connection.shrinks_place (x : Connection) (place : Place) : x.Shrinks { x with place } :=
  ⟨rfl, id, fun _ _ h => h⟩

theorem Connection.shrinks_drop (h : x.rematchPairs.Shrinks pairs) :
    x.Shrinks (Connection.drop { x with rematchPairs := pairs }) where
  clientInfo := rfl
  connected hc := by cases hc
  pairs := h

/-- **Everything a step can do to the pairs**: a client comes with an empty map, a pair is
    registered, pairs get lost, time passes. -/
inductive Moves (p : Server) : RematchOp → Server → Prop where
  | connected (clientInfo : ClientInfo) :
      Moves p (.connect clientInfo) (p.spawn (.client ⟨clientInfo, ∅, true, .idle⟩))
  | registered (i : Nat) (order : List RoomKey) (random : Nat) (x : Connection) (opp : String)
      (rest : Option (List RoomKey)) (hi : p.tasks[i]? = some (.client x))
      (hx : x.place = .out (some opp) rest) :
      Moves p (.next i order random) (p.update i p.shared (.client { x with
        rematchPairs := x.rematchPairs.register p.shared.now x.npid (some opp)
        place := .after rest }))
  | shrunk (op : RematchOp) (i : Nat) (x : Connection) (w : World) (t : Task)
      (hi : p.tasks[i]? = some (.client x)) (hw : w.now = p.shared.now)
      (ht : ∀ x', t = .client x' → x.Shrinks x') : Moves p op (p.update i w t)
  | ticked (nanos : Nat) :
      Moves p (.tick nanos) ⟨{ p.shared with now := p.shared.now + nanos }, p.tasks⟩

def Tame (f : World → Connection → Step) : Prop :=
  ∀ w x w' t, f w x = some ((), w', t) → w'.now = w.now ∧ ∀ x', t = .client x' → x.Shrinks x'

variable {f : World → Connection → Step} {p p' : Server} {i : Nat} {e : Unit}

theorem Tame.moves (hf : Tame f) (h : p.ofClient i f = some (e, p')) (op : RematchOp) :
    Moves p op p' := by
  obtain ⟨t, w, t', ht, hstep, rfl⟩ := Pool.act_eq_some h
  cases t with
  | gone => cases hstep
  | client x => exact .shrunk op i x w t' ht (hf _ _ _ _ hstep).1 (hf _ _ _ _ hstep).2

theorem Tame.onRequest (hf : Tame f) : Tame (onRequest f) := by
  intro w x w' t h
  unfold Rematch.onRequest at h
  split at h
  · exact hf w x w' t h
  · cases h

theorem goes_tame {w w' : World} {place : Place} {t : Task}
    (h : x.goes w place = some ((), w', t)) : w' = w ∧ ∀ x', t = .client x' → x.Shrinks x' := by
  cases h
  refine ⟨rfl, fun x' hx' => ?_⟩
  cases hx'
  exact x.shrinks_place _

theorem roomStep_tame (op : RoomOp) : Tame (roomStep op) := by
  intro w x w' t h
  unfold roomStep at h
  split at h
  · cases h
  · split at h
    · obtain ⟨rfl, ht⟩ := goes_tame h
      exact ⟨rfl, ht⟩
    · cases h

theorem searchStep_tame (comId : ComId) (req : SearchRoomRequest) (order : List RoomKey)
    (ids : List UInt64) : Tame (searchStep comId req order ids) := by
  intro w x w' t h
  unfold searchStep at h
  split at h
  · cases h
    have hs := reqSearchRoom_shrinks w.roomManager x.npid w.now comId req order ids x.rematchPairs
    refine ⟨rfl, fun x' hx' => ?_⟩
    split at hx'
    · cases hx'
      exact Connection.shrinks_drop hs
    · cases hx'
      exact ⟨rfl, id, hs⟩
  · cases h

theorem dropStep_tame : Tame dropStep := by
  intro w x w' t h
  have hdrop : x.Shrinks x.drop := Connection.shrinks_drop fun _ _ h => h
  unfold dropStep at h
  split at h
  · cases h
    refine ⟨rfl, fun x' hx' => ?_⟩
    cases hx'
    exact hdrop
  · cases h
    refine ⟨rfl, fun x' hx' => ?_⟩
    cases hx'
    exact hdrop
  · cases h

theorem next_moves {order : List RoomKey} {random : Nat}
    (h : p.ofClient i (nextStep order random) = some (e, p')) :
    Moves p (.next i order random) p' := by
  obtain ⟨t, w, t', ht, hstep, rfl⟩ := Pool.act_eq_some h
  cases t with
  | gone => cases hstep
  | client x =>
    have goes : ∀ {w₀ : World} {place : Place}, x.goes w₀ place = some (e, w, t') →
        w₀.now = p.shared.now → Moves p (.next i order random) (p.update i w t') := by
      intro w₀ place hg hw
      obtain ⟨rfl, ht'⟩ := goes_tame hg
      exact .shrunk _ i x w t' ht hw ht'
    unfold nextStep at hstep
    cases hx : x.place with
    | idle => simp [hx] at hstep
    | clean =>
      simp only [hx] at hstep
      split at hstep
      · exact goes hstep rfl
      · cases hstep
    | leaving rooms =>
      cases rooms with
      | nil =>
        simp only [hx] at hstep
        split at hstep
        · exact goes hstep rfl
        · cases hstep
          exact .shrunk _ i x _ .gone ht rfl fun x' hx' => by cases hx'
      | cons key rest =>
        simp only [hx] at hstep
        exact goes hstep rfl
    | looked key opponent rest =>
      simp only [hx] at hstep
      exact goes hstep rfl
    | out opponent rest =>
      simp only [hx] at hstep
      cases opponent with
      | none =>
        cases hstep
        exact .shrunk _ i x _ _ ht rfl fun x' hx' => by
          cases hx'
          exact x.shrinks_place _
      | some opp =>
        cases hstep
        exact .registered i order random x opp rest ht hx

variable {op : RematchOp}

theorem serve_moves (h : p.serve op = some (e, p')) : Moves p op p' := by
  cases op with
  | connect clientInfo =>
    simp only [Server.serve] at h
    split at h
    · cases h
    · cases h
      exact .connected clientInfo
  | room i op => exact (roomStep_tame op).onRequest.moves h _
  | leaveRoom i key =>
    have ht : Tame fun w c => c.goes w (.looked key (opponentOf w.roomManager c key) none) := by
      intro w x w' t hg
      obtain ⟨rfl, ht⟩ := goes_tame hg
      exact ⟨rfl, ht⟩
    exact ht.onRequest.moves h _
  | resetState i =>
    have ht : Tame fun w c => c.goes w .clean := by
      intro w x w' t hg
      obtain ⟨rfl, ht⟩ := goes_tame hg
      exact ⟨rfl, ht⟩
    exact ht.onRequest.moves h _
  | search i comId req order ids => exact (searchStep_tame comId req order ids).onRequest.moves h _
  | next i order random => exact next_moves h
  | drop i => exact dropStep_tame.moves h _
  | tick nanos =>
    cases h
    exact .ticked nanos

/-! ## 5. Runs -/

def Unmet (p : Server) : Prop :=
  ∀ i j x y, Both p i j x y → x.lookup p.shared.now ≠ some y.npid

theorem Unmet.mutual (h : Unmet p) : Mutual p :=
  fun i j x y hb hl => absurd hl (h i j x y hb)

theorem Unmet.moves (h : Unmet p) (hg : PairGuard p op) (hm : Moves p op p') : Unmet p' := by
  intro i j x y hb hl
  cases hm with
  | connected clientInfo =>
    rcases Pool.get_spawn hb.left with hi | ⟨_, hx⟩
    · rcases Pool.get_spawn hb.right with hj | ⟨_, hy⟩
      · exact h i j x y ⟨hb.ne, hi, hj, hb.left_connected, hb.right_connected⟩ hl
      · cases hy
        exact hg i x hi hb.left_connected hl
    · -- the map of the new connection is empty
      cases hx
      cases hl
  | registered k order random z opp rest hk hz =>
    rcases Pool.get_update hb.left with ⟨rfl, hx⟩ | ⟨hni, hi⟩
    · cases hx
      rcases Pool.get_update hb.right with ⟨e, _⟩ | ⟨_, hj⟩
      · exact hb.ne e.symm
      · have hnew : opp = y.npid :=
          Option.some.inj ((RematchPairs.lookup_register _ _ _ _).symm.trans hl)
        exact hg j z y opp rest ⟨hb.ne, hk, hj, hb.left_connected, hb.right_connected⟩ hz hnew
    · rcases Pool.get_update hb.right with ⟨rfl, hy⟩ | ⟨_, hj⟩
      · cases hy
        exact h i j x z ⟨hb.ne, hi, hk, hb.left_connected, hb.right_connected⟩ hl
      · exact h i j x y ⟨hb.ne, hi, hj, hb.left_connected, hb.right_connected⟩ hl
  | shrunk _ k z w t hk hw ht =>
    rw [Pool.shared_update, hw] at hl
    rcases Pool.get_update hb.left with ⟨rfl, hx⟩ | ⟨hni, hi⟩
    · have hs := ht x hx.symm
      rcases Pool.get_update hb.right with ⟨e, _⟩ | ⟨_, hj⟩
      · exact hb.ne e.symm
      · exact h i j z y ⟨hb.ne, hk, hj, hs.connected hb.left_connected, hb.right_connected⟩
          (hs.lookup le_rfl hl)
    · rcases Pool.get_update hb.right with ⟨rfl, hy⟩ | ⟨_, hj⟩
      · have hs := ht y hy.symm
        rw [Connection.npid, hs.clientInfo] at hl
        exact h i j x z ⟨hb.ne, hi, hk, hb.left_connected, hs.connected hb.right_connected⟩ hl
      · exact h i j x y ⟨hb.ne, hi, hj, hb.left_connected, hb.right_connected⟩ hl
  | ticked nanos =>
    exact h i j x y ⟨hb.ne, hb.left, hb.right, hb.left_connected, hb.right_connected⟩
      ((x.shrinks_place x.place).lookup (Nat.le_add_right _ nanos) hl)

variable {es : List (RematchOp × Unit)}

theorem unmet_of_run (h : (rematchServer.restrict PairGuard).Run es p) : Unmet p := by
  refine System.Run.carried_restrict (I := fun _ p => Unmet p) ?_ ?_ h
  · intro i j x y hb
    cases hb.left
  · intro es p op e p' _ hg hu hs
    exact hu.moves hg (serve_moves hs)

/-- **Rematch pairs are mutual** in every state of a run that registers no pair with a connected
    client and lets nobody connect whom another client would look up. -/
theorem rematch_pairs_mutual {es : List (RematchOp × Unit)} {p : Server}
    (h : (rematchServer.restrict PairGuard).Run es p) : Mutual p :=
  (unmet_of_run h).mutual

def pairGuard (p : Server) : RematchOp → Bool
  | .connect clientInfo => p.tasks.all fun t =>
    match t with
    | .client x => !x.connected || x.lookup p.shared.now != some clientInfo.npid
    | .gone => true
  | .next i _ _ =>
    match p.tasks[i]? with
    | some (.client ⟨_, _, _, .out (some opp) _⟩) => p.tasks.all fun t =>
      match t with
      | .client y => !y.connected || opp != y.npid
      | .gone => true
    | _ => true
  | _ => true

theorem pairGuard_spec (p : Server) (op : RematchOp) (h : pairGuard p op = true) :
    PairGuard p op := by
  cases op with
  | connect clientInfo =>
    intro i x hi hc hl
    have := List.all_eq_true.mp h _ (List.mem_of_getElem? hi)
    simp [hc, hl] at this
  | next i order random =>
    intro j x y opp rest hb hx he
    obtain ⟨info, pairs, connected, place⟩ := x
    cases hx
    simp only [pairGuard, hb.left] at h
    have := List.all_eq_true.mp h _ (List.mem_of_getElem? hb.right)
    simp [hb.right_connected, he] at this
  | _ => trivial

def twoInARoom : List RematchOp :=
  [.connect ⟨1, "a", "", ""⟩, .connect ⟨2, "b", "", ""⟩,
    .room 0 (opensRoom zeroComId ⟨1, "a", "", ""⟩),
    .room 1 (.joinRoom zeroComId ⟨1, [], [], [], none, some ⟨0⟩⟩ ⟨2, "b", "", ""⟩
      ClientSharedSignalingInfo.new 0)]

def Task.view (now : Nat) : Task → Option (String × Option String × Bool)
  | .client x => some (x.npid, x.lookup now, x.connected)
  | .gone => none

def Server.views (p : Server) : List (Option (String × Option String × Bool)) :=
  p.tasks.map (Task.view p.shared.now)

theorem Server.client_of_views {l : List (Option (String × Option String × Bool))}
    (h : p.views = l) {npid : String} {opponent : Option String} {connected : Bool}
    (hi : l[i]? = some (some (npid, opponent, connected))) :
    ∃ x, p.tasks[i]? = some (.client x) ∧ x.npid = npid ∧ x.lookup p.shared.now = opponent ∧
      x.connected = connected := by
  rw [← h, Server.views, List.getElem?_map] at hi
  obtain ⟨t, ht, hv⟩ := Option.map_eq_some_iff.mp hi
  cases t with
  | gone => cases hv
  | client x =>
    cases hv
    exact ⟨x, ht, rfl, rfl, rfl⟩

theorem rematch_pairs_mutual_dropped :
    ∃ es p, (rematchServer.restrict PairGuard).Run es p ∧
      p.views = [some ("a", some "b", true), some ("b", none, false)] ∧ Mutual p := by
  have hrun : (System.execute (fun p op => if pairGuard p op then Server.serve p op else none)
      rematchServer.init (twoInARoom ++
        [RematchOp.drop 1, .leaveRoom 0 (zeroComId, 1), .next 0 [] 0, .next 0 [] 0])).map
          (fun r => r.2.views) = some [some ("a", some "b", true), some ("b", none, false)] := by
    decide +kernel
  obtain ⟨r, hr, hviews⟩ := Option.map_eq_some_iff.mp hrun
  have h := System.Run.start.execute_restrict pairGuard_spec hr
  exact ⟨_, r.2, h, hviews, rematch_pairs_mutual h⟩

/-- **The opponent knows of nothing**: the first client leaves a room for two and registers the pair
    in its own map. The second one is connected, and its map is empty. -/
theorem opponent_not_paired :
    ∃ es p, rematchServer.Run es p ∧
      p.views = [some ("a", some "b", true), some ("b", none, true)] ∧ ¬ Mutual p := by
  have hrun : (System.execute Server.serve rematchServer.init (twoInARoom ++
      [RematchOp.leaveRoom 0 (zeroComId, 1), .next 0 [] 0, .next 0 [] 0])).map (fun r => r.2.views) =
        some [some ("a", some "b", true), some ("b", none, true)] := by
    decide +kernel
  obtain ⟨r, hr, hviews⟩ := Option.map_eq_some_iff.mp hrun
  refine ⟨_, r.2, System.Run.start.execute hr, hviews, fun hm => ?_⟩
  obtain ⟨x, hx, hxn, hxl, hxc⟩ := Server.client_of_views hviews (i := 0) rfl
  obtain ⟨y, hy, hyn, hyl, hyc⟩ := Server.client_of_views hviews (i := 1) rfl
  have hback := (hm 0 1 x y ⟨by decide, hx, hy, hxc, hyc⟩ (by rw [hxl, hyn])).1
  rw [hyl] at hback
  cases hback

end Rpcn.Rematch
