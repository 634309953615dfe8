/-
  File:      Rpcn/Signaling/Addresses.lean
  Subject:   THE ADDRESSES TWO CLIENTS ARE GIVEN OF EACH OTHER, by `join_room` (mesh and star) and by
             `req_signaling_infos` (cmd_misc.rs).

  The three places choose between the local, the IPv6 and the IPv4 addresses by the same rule, and
  both sides get addresses of the same kind. They differ in where the information comes from:
  `req_signaling_infos` reads what the UDP server knows of both, `join_room` does so for the joiner
  only. Of the members it takes what was stored in the room when they came, and nothing refreshes
  that.
-/
import Rpcn.Account.Database
import Rpcn.Room.Notifications
import Rpcn.Signaling.Udp

namespace Rpcn.Signaling

open Lib Np2Structs RoomManager Room
open Room (Route addressOn routeOf JoinNotifications Introduced)

/-! ## 1. The rule -/

/-- **How two clients reach each other**: locally behind one public IPv4 address, else by IPv6 if
    both have it, else by IPv4. -/
def classOf (x y : ClientSharedSignalingInfo) : Route :=
  if x.addrP2pIpv4.1 = y.addrP2pIpv4.1 then .localNet
  else if x.addrP2pIpv6.isSome ∧ y.addrP2pIpv6.isSome then .publicIpv6
  else .publicIpv4

theorem classOf_comm (x y : ClientSharedSignalingInfo) : classOf x y = classOf y x := by
  unfold classOf
  simp only [eq_comm, and_comm]

theorem routeOf_eq (sig : ClientSharedSignalingInfo) (user : RoomUser) :
    routeOf sig user = classOf sig user.signalingInfo := by
  unfold routeOf classOf
  by_cases h : user.signalingInfo.addrP2pIpv4.1 = sig.addrP2pIpv4.1
  · rw [if_pos h, if_pos h.symm]
  · rw [if_neg h, if_neg (Ne.symm h)]
    cases user.signalingInfo.addrP2pIpv6 <;> cases sig.addrP2pIpv6 <;> rfl

def makeSignalingAddr (a : List UInt8 × UInt16) : SignalingAddr := ⟨a.1, Uint16.newFromValue a.2⟩

/-- The address of `y` that `x` is given. -/
def addressFor (x y : ClientSharedSignalingInfo) : SignalingAddr :=
  makeSignalingAddr (addressOn y (classOf x y))

/-! ## 2. `req_signaling_infos` -/

structure MatchingSignalingInfo where
  npid : String
  addr : Option SignalingAddr
  deriving DecidableEq, Repr

/-- What the handler answers: the code, the address in the reply, and the notification for the other
    client. -/
structure SignalingAnswer where
  error : ErrorType
  reply : Option SignalingAddr
  notification : Option (UserId × MatchingSignalingInfo)
  deriving DecidableEq, Repr

inductive SignalingPanic where
  | callerMissing
  deriving DecidableEq, Repr

/-- `Client::req_signaling_infos`, from the name asked for on. The reply and the notification choose
    the address in matches of their own. -/
def reqSignalingInfos (db : Account.Database) (infos : ClientInfos) (cinfo : ClientInfo)
    (npid : String) : Outcome ErrorType SignalingPanic SignalingAnswer :=
  if npid.utf8ByteSize > 16 then .err .malformed
  else
    match db.getUserId npid with
    | .error _ => .ok ⟨.notFound, none, none⟩
    | .ok userId =>
      match infos.get? cinfo.userId with
      | none => .panic .callerMissing
      | some caller =>
        match infos.get? userId with
        | none => .ok ⟨.notFound, none, none⟩
        | some op =>
          if caller.addrP2pIpv4.1 = op.addrP2pIpv4.1 then
            -- no notification for local addresses
            .ok ⟨.noError, some (makeSignalingAddr (op.localAddrP2p.toList, 3658)), none⟩
          else
            let reply :=
              match caller.addrP2pIpv6, op.addrP2pIpv6 with
              | some _, some opIpv6 => makeSignalingAddr (opIpv6.1.toList, opIpv6.2)
              | _, _ => makeSignalingAddr (op.addrP2pIpv4.1.toList, op.addrP2pIpv4.2)
            let addr :=
              match caller.addrP2pIpv6, op.addrP2pIpv6 with
              | some callerIpv6, some _ =>
                makeSignalingAddr (callerIpv6.1.toList, callerIpv6.2)
              | _, _ => makeSignalingAddr (caller.addrP2pIpv4.1.toList, caller.addrP2pIpv4.2)
            .ok ⟨.noError, some reply, some (userId, ⟨cinfo.npid, some addr⟩)⟩

variable {cinfo : ClientInfo} {userId : UserId}

theorem reqSignalingInfos_answer {db : Account.Database} {infos : ClientInfos} {npid : String}
    {x y : ClientSharedSignalingInfo} (hlen : npid.utf8ByteSize ≤ 16)
    (huser : db.getUserId npid = .ok userId) (hx : infos.get? cinfo.userId = some x)
    (hy : infos.get? userId = some y) :
    reqSignalingInfos db infos cinfo npid = .ok ⟨.noError, some (addressFor x y),
      if classOf x y = .localNet then none
      else some (userId, ⟨cinfo.npid, some (addressFor y x)⟩)⟩ := by
  unfold reqSignalingInfos addressFor
  rw [if_neg (Nat.not_lt.mpr hlen), classOf_comm y x]
  simp only [huser, hx, hy]
  unfold classOf
  by_cases h : x.addrP2pIpv4.1 = y.addrP2pIpv4.1
  · rw [if_pos h, if_pos h, if_pos rfl]
    rfl
  · rw [if_neg h, if_neg h]
    cases hx6 : x.addrP2pIpv6 with
    | none => simp [addressOn]
    | some xIpv6 =>
      cases hy6 : y.addrP2pIpv6 with
      | none => simp [addressOn]
      | some yIpv6 => simp [addressOn, hx6, hy6]

/-! ## 3. Joins -/

/-- Whom `join_room` introduces the member `memberId` to: with a mesh everybody else, with a star
    the hub, else nobody. -/
def paired (room : Room) (memberId : UInt16) : List RoomUser :=
  match room.signalingParam with
  | none => []
  | some sigParam =>
    if sigParam.shouldSignal then
      match sigParam.sigType with
      | .signalingMesh => (room.users.toList.map (·.2)).filter (·.memberId ≠ memberId)
      | .signalingStar => (room.hubOf sigParam).toList
      | .signalingNone => []
    else []

structure Introductions (sig : ClientSharedSignalingInfo) (l : List RoomUser)
    (n : JoinNotifications) : Prop where
  introduced : Introduced sig l n
  listed : n.signalingListReply =
    l.map fun u => (u.memberId, addressOn u.signalingInfo (routeOf sig u))
  notices : ∀ c x, n.onRoute c = some x →
    x.1.signaling = some (makeSignalingAddr (addressOn sig c))

theorem introductions_nil (sig : ClientSharedSignalingInfo) :
    Introductions sig [] noNotifications where
  introduced := introduced_nil sig
  listed := rfl
  notices c x h := by cases c <;> cases h

variable {sig : ClientSharedSignalingInfo} {l : List RoomUser} {n : JoinNotifications}

theorem Introductions.pairWith (h : Introductions sig l n) (roomId : UInt64)
    (info : RoomMemberUpdateInfo) (user : RoomUser) :
    Introductions sig (l ++ [user]) (pairWith roomId info sig n user) := by
  obtain ⟨hroute, -, hlist⟩ := pairWith_spec roomId info sig n user
  refine ⟨h.introduced.pairWith roomId info user, ?_, ?_⟩
  · rw [hlist, h.listed, List.map_append]
    rfl
  · intro c x hx
    rw [hroute c] at hx
    split at hx
    · -- the first recipient has fixed the notification
      cases hn : n.onRoute c with
      | none =>
        rw [hn] at hx
        cases hx
        rfl
      | some y =>
        rw [hn] at hx
        cases hx
        exact h.notices c y hn
    · exact h.notices c x hx

theorem Introductions.foldl (h : Introductions sig l n) (roomId : UInt64)
    (info : RoomMemberUpdateInfo) (users : List RoomUser) :
    Introductions sig (l ++ users) (users.foldl (Room.pairWith roomId info sig) n) := by
  induction users generalizing l n with
  | nil =>
    rw [List.append_nil]
    exact h
  | cons u users ih =>
    have hrest := ih (h.pairWith roomId info u)
    rwa [List.append_assoc] at hrest

theorem Introductions.withPlain (h : Introductions sig l n) (x : JoinNotice) :
    Introductions sig l { n with noSignaling := x } where
  introduced := h.introduced.withPlain x
  listed := h.listed
  notices c y hy := h.notices c y (by cases c <;> exact hy)

def Plain (n : JoinNotifications) : Prop := ∀ x, n.noSignaling = some x → x.1.signaling = none

theorem plain_some (roomId : UInt64) (info : RoomMemberUpdateInfo) (ids : Finset UserId)
    (n : JoinNotifications) :
    Plain { n with noSignaling := some (⟨roomId, info, none⟩, ids) } := by
  intro x hx
  cases hx
  rfl

variable {room : Room} {memberId : UInt16}

theorem joinNotifications_introductions {roomId : UInt64} {optData : Option PresenceOptionData}
    {previous : Finset UserId}
    (h : room.joinNotifications roomId memberId optData sig previous = .ok n) :
    Introductions sig (paired room memberId) n ∧ Plain n := by
  unfold Room.joinNotifications at h
  unfold paired
  cases hinfo : room.getRoomMemberUpdateInfo memberId .none optData with
  | none =>
    rw [hinfo] at h
    cases h
  | some info =>
  rw [hinfo] at h
  cases hp : room.signalingParam with
  | none =>
    rw [hp] at h
    cases h
    exact ⟨(introductions_nil sig).withPlain _, plain_some roomId info previous _⟩
  | some p =>
    rw [hp] at h
    change (if p.shouldSignal = true then _ else _) = _ at h
    dsimp only
    by_cases hshould : p.shouldSignal = true
    swap
    · rw [if_neg hshould] at h ⊢
      cases h
      exact ⟨(introductions_nil sig).withPlain _, plain_some roomId info previous _⟩
    rw [if_pos hshould] at h ⊢
    cases htype : p.sigType with
    | signalingNone =>
      rw [htype] at h
      cases h
    | signalingMesh =>
      rw [htype] at h
      cases h
      refine ⟨(introductions_nil sig).foldl roomId info _, ?_⟩
      intro x hx
      cases ((Room.introduced_nil sig).foldl roomId info _).2.symm.trans hx
    | signalingStar =>
      rw [htype] at h
      cases hv : room.hubOf p with
      | none =>
        simp only [hv] at h
        cases h
      | some hub =>
        simp only [hv] at h
        cases h
        exact ⟨((introductions_nil sig).pairWith roomId info hub).withPlain _,
          plain_some roomId info _ _⟩

/-- **What a join tells, if `y` is the information on the members**: the reply lists the address of
    each of them for the joiner, each of them is notified with the joiner's address for it, and
    no other address is sent. -/
structure Exchanges (x : ClientSharedSignalingInfo) (y : RoomUser → ClientSharedSignalingInfo)
    (l : List RoomUser) (res : JoinResult) : Prop where
  reply : res.reply.signalingData =
    l.map fun u => ⟨Uint16.newFromValue u.memberId, some (addressFor x (y u))⟩
  notified : ∀ u ∈ l, ∃ notif ids, some (notif, ids) ∈ res.notifications ∧ u.userId ∈ ids ∧
    notif.signaling = some (addressFor (y u) x)
  only : ∀ notif ids addr, some (notif, ids) ∈ res.notifications → notif.signaling = some addr →
    ∀ id ∈ ids, ∃ u ∈ l, u.userId = id ∧ addr = addressFor (y u) x

variable {res : JoinResult}

theorem Introductions.exchanges (h : Introductions sig l n) (hplain : Plain n)
    (hnotif : res.notifications = n.all)
    (hdata : res.reply.signalingData = n.signalingListReply.map signalingEntry) :
    Exchanges sig (·.signalingInfo) l res := by
  have haddr (u : RoomUser) : makeSignalingAddr (addressOn sig (routeOf sig u)) =
      addressFor u.signalingInfo sig := by
    rw [routeOf_eq, classOf_comm]
    rfl
  refine ⟨?_, ?_, ?_⟩
  · rw [hdata, h.listed, List.map_map]
    refine List.map_congr_left fun u _ => ?_
    simp only [Function.comp_apply, routeOf_eq]
    rfl
  · intro u hu
    have hmem := (h.introduced.mem (routeOf sig u) u.userId).mpr ⟨u, hu, rfl, rfl⟩
    cases hn : n.onRoute (routeOf sig u) with
    | none =>
      rw [hn] at hmem
      exact absurd hmem (Finset.notMem_empty _)
    | some x =>
      rw [hn] at hmem
      refine ⟨x.1, x.2, ?_, hmem, ?_⟩
      · rw [hnotif]
        exact JoinNotifications.mem_all.mpr (Or.inr ⟨_, hn.symm⟩)
      · rw [h.notices _ x hn, haddr]
  · intro notif ids addr hx hsig id hid
    rw [hnotif, JoinNotifications.mem_all] at hx
    rcases hx with hx | ⟨c, hx⟩
    · have hnone := hplain _ hx.symm
      rw [hsig] at hnone
      cases hnone
    · have hmem : id ∈ recipients (n.onRoute c) := by
        rw [← hx]
        exact hid
      obtain ⟨u, hu, rfl, rfl⟩ := (h.introduced.mem c id).mp hmem
      have hnotice := h.notices _ _ hx.symm
      rw [hsig] at hnotice
      exact ⟨u, hu, rfl, (Option.some.inj hnotice).trans (haddr u)⟩

/-- What is known of a client: `ClientSharedSignalingInfo::new()` without an entry. -/
def infoOf (infos : ClientInfos) (userId : UserId) : ClientSharedSignalingInfo :=
  (infos.get? userId).getD .new

variable {m m' : RoomManager} {comId : ComId} {req : JoinRoomRequest} {now : UInt64}

theorem reqJoinRoom_exchanges
    (h : reqJoinRoom comId req cinfo sig now m = (.ok res, m')) :
    ∃ room memberId, m'.rooms.get? (comId, req.roomId) = some room ∧
      (∃ u, room.users[memberId]? = some u ∧ u.userId = cinfo.userId) ∧
      Exchanges sig (·.signalingInfo) (paired room memberId) res := by
  rcases reqJoinRoom_run m comId req cinfo sig now with ⟨e, hrun⟩ | ⟨_, _, _, hrun⟩
  · rw [hrun] at h
    cases h
  rw [hrun] at h
  obtain ⟨before, room, memberId, previous, n, _, hin, hn, hnotif, hdata, hget⟩ :=
    joinRoom_eq_ok h
  obtain ⟨hi, hplain⟩ := joinNotifications_introductions hn
  refine ⟨room, memberId, hget, ?_, hi.exchanges hplain hnotif hdata⟩
  have hs := before.letIn_step req cinfo sig now
  rw [hin] at hs
  cases hs with
  | admitted groupId memberId r₁ u hs hu =>
    refine ⟨joiner u cinfo memberId groupId, ?_, rfl⟩
    show (r₁.users.insert memberId _)[memberId]? = _
    rw [TreeMap.getElem?_insert, if_pos rfl]

theorem Exchanges.congr {x : ClientSharedSignalingInfo}
    {y y' : RoomUser → ClientSharedSignalingInfo} (h : Exchanges x y l res)
    (hy : ∀ u ∈ l, y' u = y u) : Exchanges x y' l res where
  reply := by
    rw [h.reply]
    exact List.map_congr_left fun u hu => by rw [hy u hu]
  notified := by
    intro u hu
    rw [hy u hu]
    exact h.notified u hu
  only := by
    intro notif ids addr hx hsig id hid
    obtain ⟨u, hu, hid, haddr⟩ := h.only notif ids addr hx hsig id hid
    exact ⟨u, hu, hid, by rw [hy u hu]; exact haddr⟩

/-! ## 4. Runs: is the information in the rooms current? -/

structure SignalingServer where
  infos : ClientInfos
  rooms : RoomManager

inductive SignalingOp where
  | login (userId : UserId)
  | logout (userId : UserId)
  | packet (buf : List UInt8) (src : IpAddr × UInt16)
  | request (op : RoomOp)

def callerOf : RoomOp → UserId
  | .createRoom _ _ cinfo _ _ _ => cinfo.userId
  | .joinRoom _ _ cinfo _ _ => cinfo.userId
  | .leaveRoom _ _ userId _ => userId
  | .setRoomdataExternal _ _ userId => userId
  | .setRoomdataInternal _ _ userId _ => userId
  | .setRoommemberdataInternal _ _ userId _ => userId

/-- The request as the handlers make it: a creation and a join are given what is known of the
    caller. -/
def withInfo (infos : ClientInfos) : RoomOp → RoomOp
  | .createRoom comId req cinfo serverId _ now =>
    .createRoom comId req cinfo serverId (infoOf infos cinfo.userId) now
  | .joinRoom comId req cinfo _ now => .joinRoom comId req cinfo (infoOf infos cinfo.userId) now
  | op => op

def InRoom (m : RoomManager) (userId : UserId) : Prop :=
  ∃ key r, m.rooms.get? key = some r ∧
    ∃ (mid : UInt16) (u : RoomUser), r.users[mid]? = some u ∧ u.userId = userId

/-- **The server, as far as signaling goes.** The entry of a client is made by its login and removed
    after it has left its rooms. -/
def signalingSystem : System SignalingServer SignalingOp (Option RoomOutcome) where
  init := ⟨∅, .new⟩
  enabled s op :=
    match op with
    | .login userId => s.infos.get? userId = none
    | .logout userId => ¬ InRoom s.rooms userId
    | .packet _ _ => True
    | .request op => callerOf op ∈ s.infos.keys
  step s op :=
    match op with
    | .login userId => (none, { s with infos := s.infos.insert userId .new })
    | .logout userId => (none, { s with infos := s.infos.remove userId })
    | .packet buf src => (none, { s with infos := (handleSocketInput s.infos buf src).1 })
    | .request op =>
      (some ((withInfo s.infos op).call s.rooms).1,
        { s with rooms := ((withInfo s.infos op).call s.rooms).2 })

/-- No packet changes the information on somebody who is in a room. -/
def Settled (s : SignalingServer) : SignalingOp → Prop
  | .packet buf src => ∀ userId, InRoom s.rooms userId →
      (handleSocketInput s.infos buf src).1.get? userId = s.infos.get? userId
  | _ => True

/-- **The rooms are up to date.** -/
def Current (s : SignalingServer) : Prop :=
  ∀ key r (mid : UInt16) (u : RoomUser), s.rooms.rooms.get? key = some r →
    r.users[mid]? = some u → s.infos.get? u.userId = some u.signalingInfo

def SameInfos (r r' : Room) : Prop :=
  ∀ (mid : UInt16) (u : RoomUser), r'.users[mid]? = some u →
    ∃ v, r.users[mid]? = some v ∧ v.userId = u.userId ∧ v.signalingInfo = u.signalingInfo

variable {r r' : Room}

theorem SameInfos.of_users (h : r'.users = r.users) : SameInfos r r' := by
  intro mid u hu
  rw [h] at hu
  exact ⟨u, hu, rfl, rfl⟩

variable {mid : UInt16}

theorem sameInfos_released {member : RoomUser} (h : r.ReleaseStep mid member false r') :
    SameInfos r r' := by
  cases h with
  | stays ho =>
    intro k u hu
    change (r.users.erase mid)[k]? = some u at hu
    rw [TreeMap.getElem?_erase] at hu
    split at hu
    · cases hu
    · exact ⟨u, hu, rfl, rfl⟩
  | handed s rest ho hs hfirst =>
    intro k u hu
    change ((r.users.erase mid).modify s _)[k]? = some u at hu
    rw [TreeMap.getElem?_modify, TreeMap.getElem?_erase] at hu
    by_cases hk : k = mid
    · rw [if_pos hk] at hu
      split at hu <;> cases hu
    · rw [if_neg hk] at hu
      split at hu
      · obtain ⟨v, hv, rfl⟩ := Option.map_eq_some_iff.mp hu
        exact ⟨v, hv, rfl, rfl⟩
      · exact ⟨u, hu, rfl, rfl⟩

theorem sameInfos_member (h : MemberDataOnly userId r r') : SameInfos r r' := by
  obtain ⟨target, v, teamId, memberAttr, hv, -, rfl⟩ := h
  intro k u hu
  change (r.users.insert target _)[k]? = some u at hu
  rw [TreeMap.getElem?_insert] at hu
  split at hu
  · rename_i hk
    cases hu
    exact ⟨v, hk ▸ hv, rfl, rfl⟩
  · exact ⟨u, hu, rfl, rfl⟩

variable {u : RoomUser}

theorem letIn_infos (h : r.Wf) (req : JoinRoomRequest) (cinfo : ClientInfo)
    (sig : ClientSharedSignalingInfo) (now : UInt64)
    (hu : (letIn req cinfo sig now r).2.users[mid]? = some u) :
    r.users[mid]? = some u ∨ u.userId = cinfo.userId ∧ u.signalingInfo = sig := by
  rcases letIn_cases h req cinfo sig now with ⟨_, _, _, e, -⟩ | ⟨r₁, _, _, hs, -, hid, hsig, e⟩
  · rw [e] at hu
    exact Or.inl hu
  · obtain ⟨_, _, _, rfl, -⟩ := hs
    rw [e] at hu
    rcases addUser_member hu with ⟨-, rfl⟩ | ⟨-, hu⟩
    · exact Or.inr ⟨hid, hsig⟩
    · exact Or.inl hu

def broughtBy : RoomOp → Option ClientSharedSignalingInfo
  | .createRoom _ _ _ _ sig _ => some sig
  | .joinRoom _ _ _ sig _ => some sig
  | _ => none

theorem call_members (hI : Inv m) (op : RoomOp) {key : ComId × UInt64}
    (h : (op.call m).2.rooms.get? key = some r') (hu : r'.users[mid]? = some u) :
    (∃ r, m.rooms.get? key = some r ∧ ∃ v, r.users[mid]? = some v ∧ v.userId = u.userId ∧
      v.signalingInfo = u.signalingInfo) ∨
    u.userId = callerOf op ∧ broughtBy op = some u.signalingInfo := by
  have hs := call_roomStep hI op h
  cases hs with
  | same _ _ _ hr => exact Or.inl ⟨r', hr, u, hu, rfl, rfl⟩
  | founded comId req cinfo serverId sig now _ hf hc =>
    -- the shape of the room says more than its foundation
    rw [RoomOp.call, Call.mapOk_state] at h
    rcases createRoom_rooms m comId req cinfo serverId sig now with
      ⟨-, e⟩ | ⟨resp, base, v, room, memberId, groupId, -, -, hb, hv, hg, e⟩
    · rw [e] at h
      exact Or.inl ⟨r', h, u, hu, rfl, rfl⟩
    · rw [e, HashMap.get?_insert, if_pos rfl] at h
      cases h
      have hnew : (room.users.insert memberId (creator v cinfo memberId groupId))[mid]?
        = some u := hu
      rw [enterFirstGroup_groupsOnly hg] at hnew
      change (base.users.insert memberId _)[mid]? = some u at hnew
      rw [(fromProtobuf_ok hb).users, TreeMap.getElem?_insert] at hnew
      split at hnew
      · cases hnew
        obtain ⟨_, -, hv⟩ := except_bind_ok hv
        obtain ⟨_, -, hv⟩ := except_bind_ok hv
        cases hv
        exact Or.inr ⟨rfl, rfl⟩
      · cases hnew
  | admitted comId req cinfo sig now room hr hnew =>
    rcases letIn_infos (hI.wf hr) req cinfo sig now hu with hu | ⟨hid, hsig⟩
    · exact Or.inl ⟨room, hr, u, hu, rfl, rfl⟩
    · exact Or.inr ⟨hid, by rw [hsig]; rfl⟩
  | released comId roomId userId random room _ mid member hr hm _ hs =>
    exact Or.inl ⟨room, hr, sameInfos_released hs _ u hu⟩
  | external comId req userId room hr =>
    obtain ⟨_, _, _, e⟩ := room.setExternal_externalOnly req userId
    exact Or.inl ⟨room, hr, SameInfos.of_users (by rw [e]) _ u hu⟩
  | internal comId req userId now room hr =>
    obtain ⟨_, _, _, _, _, e, -, -⟩ := room.setInternal_ownerOnly req userId now
    exact Or.inl ⟨room, hr, SameInfos.of_users (by rw [e]) _ u hu⟩
  | member comId req userId now room hr =>
    refine Or.inl ⟨room, hr, ?_⟩
    rcases room.setMember_memberDataOnly with e | ⟨-, hs⟩
    · exact SameInfos.of_users (by rw [e]) _ u hu
    · exact sameInfos_member hs _ u hu

variable (infos : ClientInfos)

theorem callerOf_withInfo (op : RoomOp) : callerOf (withInfo infos op) = callerOf op := by
  cases op <;> rfl

theorem broughtBy_withInfo {op : RoomOp} (h : broughtBy (withInfo infos op) = some sig) :
    sig = infoOf infos (callerOf op) := by
  cases op <;> cases h <;> rfl

variable {s : SignalingServer}

theorem current_step (op : SignalingOp) (h : Inv s.rooms ∧ Current s)
    (hen : signalingSystem.enabled s op) (hset : Settled s op) :
    Inv (signalingSystem.step s op).2.rooms ∧ Current (signalingSystem.step s op).2 := by
  obtain ⟨hI, hcur⟩ := h
  cases op with
  | login userId =>
    refine ⟨hI, fun key r mid u hr hu => ?_⟩
    have hold := hcur key r mid u hr hu
    show (s.infos.insert userId _).get? u.userId = _
    rw [HashMap.get?_insert, if_neg, hold]
    intro e
    have hnone : s.infos.get? userId = none := hen
    rw [← e, hold] at hnone
    cases hnone
  | logout userId =>
    refine ⟨hI, fun key r mid u hr hu => ?_⟩
    show (s.infos.remove userId).get? u.userId = _
    rw [HashMap.get?_remove, if_neg, hcur key r mid u hr hu]
    intro e
    exact hen ⟨key, r, hr, mid, u, hu, e⟩
  | packet buf src =>
    refine ⟨hI, fun key r mid u hr hu => ?_⟩
    exact (hset u.userId ⟨key, r, hr, mid, u, hu, rfl⟩).trans (hcur key r mid u hr hu)
  | request op =>
    refine ⟨hI.change (call_change hI _), fun key r mid u hr hu => ?_⟩
    rcases call_members hI _ hr hu with ⟨r₀, hr₀, v, hv, hid, hsig⟩ | ⟨hid, hsig⟩
    · have hold := hcur key r₀ mid v hr₀ hv
      rwa [hid, hsig] at hold
    · -- the caller is connected, so what it has brought is what is known of it
      rw [callerOf_withInfo] at hid
      obtain ⟨x, hx⟩ := HashMap.mem_keys.mp hen
      rw [broughtBy_withInfo s.infos hsig, infoOf, hid, hx]
      exact hx

variable {es : List (SignalingOp × Option RoomOutcome)}

theorem stored_infos_current (h : (signalingSystem.restrict Settled).Run es s) :
    Inv s.rooms ∧ Current s := by
  refine h.invariant (I := fun s => Inv s.rooms ∧ Current s)
    ⟨inv_new, fun key r mid u hr => by cases hr⟩ ?_
  intro s op hs hen
  exact current_step _ hs hen.1 hen.2

theorem mem_paired (h : u ∈ paired room memberId) : ∃ mid : UInt16, room.users[mid]? = some u := by
  unfold paired at h
  split at h
  · cases h
  split at h
  · split at h
    · obtain ⟨p, hp, rfl⟩ := List.mem_map.mp (List.mem_filter.mp h).1
      exact ⟨p.1, Std.ExtTreeMap.mem_toList_iff_getElem?_eq_some.mp hp⟩
    · exact ⟨_, Option.mem_toList.mp h⟩
    · cases h
  · cases h

theorem paired_current (h : (signalingSystem.restrict Settled).Run es s)
    (hcaller : cinfo.userId ∈ s.infos.keys)
    (hjoin : reqJoinRoom comId req cinfo (infoOf s.infos cinfo.userId) now s.rooms =
      (.ok res, m')) (hr : m'.rooms.get? (comId, req.roomId) = some room)
    (hu : u ∈ paired room memberId) : s.infos.get? u.userId = some u.signalingInfo := by
  obtain ⟨mid, hu⟩ := mem_paired hu
  have hnext := current_step (.request (.joinRoom comId req cinfo .new now))
    (stored_infos_current h) hcaller trivial
  refine hnext.2 (comId, req.roomId) room mid u ?_ hu
  show (Call.mapOk RoomReply.joined (reqJoinRoom comId req cinfo
    (infoOf s.infos cinfo.userId) now) s.rooms).2.rooms.get? _ = _
  rw [Call.mapOk_state, hjoin]
  exact hr

/-- **Signaling addresses are symmetric.** The kind of address is one symmetric function of the two
    clients' information, in the three places that pair them. A request for signaling infos tells
    the current addresses. A join introduces every other member of a mesh and the hub of a star,
    with the addresses of the information stored in the room. Those are the current ones if that
    information is current, and it is in every run in which no packet changes the information of
    somebody who is in a room. -/
theorem signaling_addresses_symmetric (infos : ClientInfos) :
    (∀ x y, classOf x y = classOf y x) ∧
    (∀ (db : Account.Database) (cinfo : ClientInfo) (npid : String) userId x y,
      npid.utf8ByteSize ≤ 16 → db.getUserId npid = .ok userId →
      infos.get? cinfo.userId = some x → infos.get? userId = some y →
      reqSignalingInfos db infos cinfo npid = .ok ⟨.noError, some (addressFor x y),
        if classOf x y = .localNet then none
        else some (userId, ⟨cinfo.npid, some (addressFor y x)⟩)⟩) ∧
    ∀ m comId req (cinfo : ClientInfo) now res m',
      RoomManager.reqJoinRoom comId req cinfo (infoOf infos cinfo.userId) now m = (.ok res, m') →
      ∃ room memberId, m'.rooms.get? (comId, req.roomId) = some room ∧
        (∃ u, room.users[memberId]? = some u ∧ u.userId = cinfo.userId) ∧
        Exchanges (infoOf infos cinfo.userId) (·.signalingInfo) (paired room memberId) res ∧
        ((∀ u ∈ paired room memberId, infos.get? u.userId = some u.signalingInfo) →
          Exchanges (infoOf infos cinfo.userId) (fun u => infoOf infos u.userId)
            (paired room memberId) res) ∧
        (cinfo.userId ∈ infos.keys →
          (∃ es, (signalingSystem.restrict Settled).Run es ⟨infos, m⟩) →
          ∀ u ∈ paired room memberId, infos.get? u.userId = some u.signalingInfo) := by
  refine ⟨classOf_comm, fun db cinfo npid userId x y => reqSignalingInfos_answer, ?_⟩
  intro m comId req cinfo now res m' h
  obtain ⟨room, memberId, hget, hjoiner, hx⟩ := reqJoinRoom_exchanges h
  refine ⟨room, memberId, hget, hjoiner, hx, fun hcur => hx.congr fun u hu => ?_, ?_⟩
  · rw [infoOf, hcur u hu]
    rfl
  · intro hcaller hrun u hu
    obtain ⟨es, hrun⟩ := hrun
    exact paired_current hrun hcaller h hget hu

def openMesh : RoomOp :=
  .createRoom zeroComId { roomForTwo with sigOptParam := some ⟨some ⟨1⟩, some ⟨0⟩, some ⟨0⟩⟩ }
    (player 7) 0 .new 0

def serverAfter (ops : List SignalingOp) : SignalingServer :=
  ops.foldl (fun s op => (signalingSystem.step s op).2) signalingSystem.init

def hosting : List SignalingOp := [.login 7, .packet (packetOf 2) homeAddr, .request openMesh]

theorem hosting_run : ∃ es, (signalingSystem.restrict Settled).Run es (serverAfter hosting) := by
  have hlogin : (signalingSystem.init).infos.get? 7 = none := by decide
  have hknown : callerOf openMesh ∈ (serverAfter (hosting.take 2)).infos.keys := by decide
  have hpacket : Settled (serverAfter [.login 7]) (.packet (packetOf 2) homeAddr) := by
    intro _ hin
    obtain ⟨_, _, hr, _⟩ := hin
    cases hr
  have h₁ := System.Run.start.step (M := signalingSystem.restrict Settled) (SignalingOp.login 7)
    ⟨hlogin, trivial⟩
  have h₂ := h₁.step (SignalingOp.packet (packetOf 2) homeAddr) ⟨trivial, hpacket⟩
  exact ⟨_, h₂.step (SignalingOp.request openMesh) ⟨hknown, trivial⟩⟩

def joinable : SignalingServer := serverAfter (hosting ++ [.login 2])

def joinableLate : SignalingServer :=
  serverAfter (hosting ++ [.packet (packetOf 2) (.v4 #v[203, 0, 113, 9], 3658), .login 2])

theorem signaling_addresses_symmetric_mesh :
    ∃ res m' room memberId,
      RoomManager.reqJoinRoom zeroComId joinFirstRoom (player 2) (infoOf joinable.infos 2) 0
        joinable.rooms = (.ok res, m') ∧
      res.reply.signalingData.map (·.addr) = [some (makeSignalingAddr ([203, 0, 113, 5], 3658))] ∧
      Exchanges (infoOf joinable.infos 2) (fun u => infoOf joinable.infos u.userId)
        (paired room memberId) res := by
  obtain ⟨es, hrun⟩ := hosting_run
  have hlogin : (serverAfter hosting).infos.get? 2 = none := by decide +kernel
  have hrun := hrun.step (SignalingOp.login 2) ⟨hlogin, trivial⟩
  obtain ⟨res, m', hjoin, hdata⟩ : ∃ res m', RoomManager.reqJoinRoom zeroComId joinFirstRoom
      (player 2) (infoOf joinable.infos 2) 0 joinable.rooms = (.ok res, m') ∧
      res.reply.signalingData.map (·.addr) =
        [some (makeSignalingAddr ([203, 0, 113, 5], 3658))] := ⟨_, _, rfl, by decide +kernel⟩
  obtain ⟨room, memberId, -, -, -, hcur, hsettled⟩ :=
    (signaling_addresses_symmetric joinable.infos).2.2 joinable.rooms zeroComId joinFirstRoom
      (player 2) 0 res m' hjoin
  exact ⟨res, m', room, memberId, hjoin, hdata, hcur (hsettled (by decide +kernel) ⟨_, hrun⟩)⟩

/-- **An old address is told.** Player 7 is at 203.0.113.9 when player 2 joins, the server knows, and
    the reply says 203.0.113.5. -/
theorem stale_address_told :
    ∃ es res m', signalingSystem.Run es joinableLate ∧
      RoomManager.reqJoinRoom zeroComId joinFirstRoom (player 2) (infoOf joinableLate.infos 2) 0
        joinableLate.rooms = (.ok res, m') ∧
      res.reply.signalingData.map (·.addr) = [some (makeSignalingAddr ([203, 0, 113, 5], 3658))] ∧
      (joinableLate.infos.get? 7).map (addressFor (infoOf joinableLate.infos 2)) =
        some (makeSignalingAddr ([203, 0, 113, 9], 3658)) := by
  obtain ⟨es, hrun⟩ := hosting_run
  have hmoved := hrun.unrestrict.step
    (SignalingOp.packet (packetOf 2) (.v4 #v[203, 0, 113, 9], 3658)) trivial
  have hlogin : (serverAfter (hosting ++
      [.packet (packetOf 2) (.v4 #v[203, 0, 113, 9], 3658)])).infos.get? 2 = none := by
    decide +kernel
  exact ⟨_, _, _, hmoved.step (SignalingOp.login 2) hlogin, rfl, by decide +kernel, by decide +kernel⟩

end Rpcn.Signaling
