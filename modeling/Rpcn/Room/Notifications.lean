/-
  File:      Rpcn/Room/Notifications.lean
  Subject:   WHO IS TOLD OF A JOIN.

  `join_room` returns four notifications with their recipients: one without an address, one with the
  joiner's local address, one with the public IPv4 and one with the public IPv6 address. With a mesh
  every member is introduced to the joiner, with a star the hub is, without signaling nobody.
-/
import Rpcn.Room.Signaling

namespace Rpcn

open Lib Np2Structs
open Std (ExtTreeMap)

abbrev JoinNotice := Option (NotificationUserJoinedRoom × Finset UserId)

def recipients (n : JoinNotice) : Finset UserId := n.elim ∅ (·.2)

def Addressed (n : JoinNotice) : Prop := ∃ x, n = some x ∧ x.1.signaling ≠ none

variable {u : RoomUser}

variable {sig : ClientSharedSignalingInfo} {l : List RoomUser} {n : JoinNotifications}

namespace Room

/-! ## 1. Introductions -/

inductive Route where
  | localNet
  | publicIpv4
  | publicIpv6
  deriving DecidableEq

def routeOf (sig : ClientSharedSignalingInfo) (user : RoomUser) : Route :=
  if user.signalingInfo.addrP2pIpv4.1 = sig.addrP2pIpv4.1 then .localNet
  else
    match user.signalingInfo.addrP2pIpv6, sig.addrP2pIpv6 with
    | some _, some _ => .publicIpv6
    | _, _ => .publicIpv4

def JoinNotifications.onRoute (n : JoinNotifications) : Route → JoinNotice
  | .localNet => n.localSignaling
  | .publicIpv4 => n.publicSignalingIpv4
  | .publicIpv6 => n.publicSignalingIpv6

theorem recipients_add (l : JoinNotice) (notif : NotificationUserJoinedRoom) (id : UserId) :
    recipients (addToNotifList l notif id) = insert id (recipients l) := by
  cases l with
  | none => rfl
  | some x => rfl

def addressOn (si : ClientSharedSignalingInfo) : Route → List UInt8 × UInt16
  | .localNet => (si.localAddrP2p.toList, 3658)
  | .publicIpv4 => (si.addrP2pIpv4.1.toList, si.addrP2pIpv4.2)
  | .publicIpv6 => (si.addrP2pIpv6.map fun a => (a.1.toList, a.2)).getD ([], 0)

theorem pairWith_spec (roomId : UInt64) (info : RoomMemberUpdateInfo)
    (sig : ClientSharedSignalingInfo) (n : JoinNotifications) (user : RoomUser) :
    (∀ c, (pairWith roomId info sig n user).onRoute c =
      if routeOf sig user = c then
        addToNotifList (n.onRoute c)
          (notifWith roomId info (addressOn sig c).1 (addressOn sig c).2) user.userId
      else n.onRoute c) ∧
    (pairWith roomId info sig n user).noSignaling = n.noSignaling ∧
    (pairWith roomId info sig n user).signalingListReply = n.signalingListReply ++
      [(user.memberId, addressOn user.signalingInfo (routeOf sig user))] := by
  unfold pairWith routeOf
  by_cases hlocal : user.signalingInfo.addrP2pIpv4.1 = sig.addrP2pIpv4.1
  · rw [if_pos hlocal, if_pos hlocal]
    refine ⟨fun c => ?_, rfl, rfl⟩
    cases c <;> rfl
  rw [if_neg hlocal, if_neg hlocal]
  cases huser : user.signalingInfo.addrP2pIpv6 with
  | none =>
    refine ⟨fun c => ?_, rfl, rfl⟩
    cases c <;> rfl
  | some userIpv6 =>
    cases hsig : sig.addrP2pIpv6 with
    | none =>
      refine ⟨fun c => ?_, rfl, rfl⟩
      cases c <;> rfl
    | some joinerIpv6 =>
      refine ⟨fun c => ?_, rfl, ?_⟩
      · cases c with
        | localNet => rfl
        | publicIpv4 => rfl
        | publicIpv6 => simp only [addressOn, hsig]; rfl
      · simp only [addressOn, huser]
        rfl

structure Introduced (sig : ClientSharedSignalingInfo) (l : List RoomUser)
    (n : JoinNotifications) : Prop where
  mem : ∀ c id, id ∈ recipients (n.onRoute c) ↔ ∃ u ∈ l, routeOf sig u = c ∧ u.userId = id
  addressed : ∀ c, n.onRoute c ≠ none → Addressed (n.onRoute c)
  listed : n.signalingListReply.map (·.1) = l.map (·.memberId)

def noNotifications : JoinNotifications := ⟨none, none, none, none, []⟩

theorem introduced_nil (sig : ClientSharedSignalingInfo) : Introduced sig [] noNotifications where
  mem c id := by
    constructor
    · intro h
      cases c <;> exact absurd h (Finset.notMem_empty id)
    · rintro ⟨u, hu, -⟩
      exact absurd hu List.not_mem_nil
  addressed c h := by
    cases c <;> exact absurd rfl h
  listed := rfl

theorem Introduced.pairWith (h : Introduced sig l n) (roomId : UInt64)
    (info : RoomMemberUpdateInfo) (user : RoomUser) :
    Introduced sig (l ++ [user]) (pairWith roomId info sig n user) := by
  obtain ⟨hroute, -, hlist⟩ := pairWith_spec roomId info sig n user
  constructor
  · intro c id
    rw [hroute c]
    by_cases hc : routeOf sig user = c
    · rw [if_pos hc, recipients_add, Finset.mem_insert, h.mem]
      constructor
      · rintro (rfl | ⟨u, hu, hcu⟩)
        · exact ⟨user, List.mem_append_right _ List.mem_cons_self, hc, rfl⟩
        · exact ⟨u, List.mem_append_left _ hu, hcu⟩
      · rintro ⟨u, hu, hcu, rfl⟩
        rcases List.mem_append.mp hu with hu | hu
        · exact Or.inr ⟨u, hu, hcu, rfl⟩
        · rw [List.mem_singleton.mp hu]
          exact Or.inl rfl
    · rw [if_neg hc, h.mem]
      constructor
      · rintro ⟨u, hu, hcu⟩
        exact ⟨u, List.mem_append_left _ hu, hcu⟩
      · rintro ⟨u, hu, hcu, rfl⟩
        rcases List.mem_append.mp hu with hu | hu
        · exact ⟨u, hu, hcu, rfl⟩
        · rw [List.mem_singleton.mp hu] at hcu
          exact absurd hcu hc
  · intro c hne
    rw [hroute c] at hne ⊢
    by_cases hc : routeOf sig user = c
    · rw [if_pos hc]
      cases hl : n.onRoute c with
      | none => exact ⟨_, rfl, Option.some_ne_none _⟩
      | some x =>
        -- the first recipient fixed the notification
        obtain ⟨y, hy, haddr⟩ := h.addressed c (by rw [hl]; exact Option.some_ne_none x)
        cases hl.symm.trans hy
        exact ⟨_, rfl, haddr⟩
    · rw [if_neg hc] at hne ⊢
      exact h.addressed c hne
  · rw [hlist, List.map_append, h.listed, List.map_append]
    rfl

theorem Introduced.foldl (h : Introduced sig l n) (roomId : UInt64) (info : RoomMemberUpdateInfo)
    (users : List RoomUser) :
    Introduced sig (l ++ users) (users.foldl (Room.pairWith roomId info sig) n) ∧
      (users.foldl (Room.pairWith roomId info sig) n).noSignaling = n.noSignaling := by
  induction users generalizing l n with
  | nil =>
    rw [List.append_nil]
    exact ⟨h, rfl⟩
  | cons u users ih =>
    obtain ⟨hrest, hno⟩ := ih (h.pairWith roomId info u)
    rw [List.append_assoc] at hrest
    obtain ⟨-, hkeep, -⟩ := pairWith_spec roomId info sig n u
    exact ⟨hrest, hno.trans hkeep⟩

/-! ## 2. The three ways of signaling -/

/-- **The members of a room are distributed over the notifications**: those of a list are
    introduced, the others are told without an address. -/
structure Distributes (room : Room) (sig : ClientSharedSignalingInfo) (l : List RoomUser)
    (n : JoinNotifications) : Prop where
  members : ∀ u ∈ l, room.users[u.memberId]? = some u
  nodup : l.Nodup
  introduced : Introduced sig l n
  plain : ¬ Addressed n.noSignaling
  rest : ∀ id, id ∈ recipients n.noSignaling ↔
    id ∈ room.getRoomUserIds ∧ ∀ u ∈ l, u.userId ≠ id

theorem Introduced.withPlain (h : Introduced sig l n) (x : JoinNotice) :
    Introduced sig l { n with noSignaling := x } := by
  have hroute (c : Route) : { n with noSignaling := x }.onRoute c = n.onRoute c := by
    cases c <;> rfl
  refine ⟨fun c id => ?_, fun c => ?_, h.listed⟩
  · rw [hroute]
    exact h.mem c id
  · rw [hroute]
    exact h.addressed c

theorem not_addressed_plain (roomId : UInt64) (info : RoomMemberUpdateInfo) (ids : Finset UserId) :
    ¬ Addressed (some (⟨roomId, info, none⟩, ids)) := by
  rintro ⟨x, hx, hne⟩
  cases hx
  exact hne rfl

section Join

/-! The room `r'` is `room` with the joiner in it, under an id nobody had. -/

variable {room r' : Room} {memberId : UInt16} {joiner : RoomUser} (hwf : room.Wf) (hwf' : r'.Wf)
  (husers : r'.users = room.users.insert memberId joiner) (hfresh : room.users[memberId]? = none)
include hwf hwf' husers hfresh

omit hwf hwf' in
theorem member_before {mid : UInt16} :
    room.users[mid]? = some u ↔ mid ≠ memberId ∧ r'.users[mid]? = some u := by
  rw [husers, TreeMap.getElem?_insert]
  by_cases e : mid = memberId
  · rw [if_pos e, e, hfresh]
    exact ⟨(fun h => by cases h), fun h => absurd rfl h.1⟩
  · rw [if_neg e]
    exact ⟨fun h => ⟨e, h⟩, fun h => h.2⟩

omit hwf in
theorem mem_others :
    u ∈ (r'.users.toList.map (·.2)).filter (·.memberId ≠ memberId) ↔
      room.users[u.memberId]? = some u := by
  rw [List.mem_filter, List.mem_map, decide_eq_true_eq, member_before husers hfresh]
  constructor
  · rintro ⟨⟨⟨mid, v⟩, hmem, rfl⟩, hne⟩
    have hget : r'.users[mid]? = some v := ExtTreeMap.mem_toList_iff_getElem?_eq_some.mp hmem
    refine ⟨hne, ?_⟩
    rw [hwf'.slots.memberId_eq hget]
    exact hget
  · rintro ⟨hne, hget⟩
    exact ⟨⟨(u.memberId, u), ExtTreeMap.mem_toList_iff_getElem?_eq_some.mpr hget, rfl⟩, hne⟩

omit hwf husers hfresh in
theorem nodup_others :
    ((r'.users.toList.map (·.2)).filter (·.memberId ≠ memberId)).Nodup := by
  refine List.Nodup.filter _ (List.Nodup.map_on ?_ (TreeMap.nodup_toList _))
  rintro ⟨a, u⟩ ha ⟨b, v⟩ hb e
  have hu := hwf'.slots.memberId_eq (ExtTreeMap.mem_toList_iff_getElem?_eq_some.mp ha)
  have hv := hwf'.slots.memberId_eq (ExtTreeMap.mem_toList_iff_getElem?_eq_some.mp hb)
  dsimp only at e
  rw [← hu, ← hv, e]

theorem mesh_distributes (roomId : UInt64) (info : RoomMemberUpdateInfo)
    (sig : ClientSharedSignalingInfo) :
    room.Distributes sig ((r'.users.toList.map (·.2)).filter (·.memberId ≠ memberId))
      (((r'.users.toList.map (·.2)).filter (·.memberId ≠ memberId)).foldl
        (pairWith roomId info sig) noNotifications) := by
  obtain ⟨hintro, hno⟩ := (introduced_nil sig).foldl roomId info
    ((r'.users.toList.map (·.2)).filter (·.memberId ≠ memberId))
  refine ⟨fun u hu => (mem_others hwf' husers hfresh).mp hu, nodup_others hwf', hintro, ?_,
    fun id => ?_⟩
  · rw [hno]
    rintro ⟨x, hx, -⟩
    cases hx
  · rw [hno]
    refine ⟨fun hid => absurd hid (Finset.notMem_empty id), fun ⟨hid, hall⟩ => ?_⟩
    -- a member of before is among those introduced
    obtain ⟨mid, v, hv, rfl⟩ := mem_getRoomUserIds.mp hid
    refine absurd rfl (hall v ((mem_others hwf' husers hfresh).mpr ?_))
    rw [hwf.slots.memberId_eq hv]
    exact hv

omit hwf hwf' husers hfresh in
theorem star_distributes (roomId : UInt64) (info : RoomMemberUpdateInfo)
    (sig : ClientSharedSignalingInfo) {hub : RoomUser}
    (hget : room.users[hub.memberId]? = some hub) :
    room.Distributes sig [hub] { pairWith roomId info sig noNotifications hub with
      noSignaling := some (⟨roomId, info, none⟩, room.getRoomUserIds.erase hub.userId) } := by
  refine ⟨?_, List.nodup_singleton hub,
    ((introduced_nil sig).pairWith roomId info hub).withPlain _, not_addressed_plain _ _ _,
    fun id => ?_⟩
  · intro u hu
    rw [List.mem_singleton.mp hu]
    exact hget
  · show id ∈ room.getRoomUserIds.erase hub.userId ↔ _
    rw [Finset.mem_erase]
    constructor
    · rintro ⟨hne, hid⟩
      refine ⟨hid, fun u hu e => hne ?_⟩
      rw [← e, List.mem_singleton.mp hu]
    · rintro ⟨hid, hall⟩
      exact ⟨fun e => hall hub List.mem_cons_self e.symm, hid⟩

omit hwf hwf' husers hfresh in
theorem plain_distributes (roomId : UInt64) (info : RoomMemberUpdateInfo)
    (sig : ClientSharedSignalingInfo) :
    room.Distributes sig [] { noNotifications with
      noSignaling := some (⟨roomId, info, none⟩, room.getRoomUserIds) } := by
  refine ⟨fun u hu => absurd hu List.not_mem_nil, List.nodup_nil, (introduced_nil sig).withPlain _,
    not_addressed_plain _ _ _, fun id => ?_⟩
  exact ⟨fun hid => ⟨hid, fun u hu => absurd hu List.not_mem_nil⟩, fun hid => hid.1⟩

theorem joinNotifications_distributes (hsig : r'.signalingParam = room.signalingParam)
    (howner : r'.owner = room.owner) (hhub : room.HubPresent) {roomId : UInt64}
    {optData : Option PresenceOptionData} {sig : ClientSharedSignalingInfo}
    {n : JoinNotifications}
    (h : r'.joinNotifications roomId memberId optData sig room.getRoomUserIds = .ok n) :
    ∃ l, room.Distributes sig l n := by
  unfold joinNotifications at h
  cases hinfo : r'.getRoomMemberUpdateInfo memberId .none optData with
  | none =>
    rw [hinfo] at h
    cases h
  | some info =>
  rw [hinfo] at h
  cases hp : r'.signalingParam with
  | none =>
    rw [hp] at h
    cases h
    exact ⟨[], plain_distributes roomId info sig⟩
  | some p =>
    rw [hp] at h
    change (if p.shouldSignal = true then _ else _) = _ at h
    by_cases hshould : p.shouldSignal = true
    swap
    · rw [if_neg hshould] at h
      cases h
      exact ⟨[], plain_distributes roomId info sig⟩
    rw [if_pos hshould] at h
    cases htype : p.sigType with
    | signalingNone =>
      rw [htype] at h
      cases h
    | signalingMesh =>
      rw [htype] at h
      cases h
      exact ⟨_, mesh_distributes hwf hwf' husers hfresh roomId info sig⟩
    | signalingStar =>
      rw [htype] at h
      obtain ⟨v, hv⟩ := hhub p ⟨hsig.symm.trans hp, htype, hshould⟩
      have hv' : r'.hubOf p = some v := by
        rw [hubOf, howner]
        exact ((member_before husers hfresh).mp hv).2
      simp only [hv'] at h
      cases h
      refine ⟨[v], star_distributes roomId info sig ?_⟩
      rw [hwf.slots.memberId_eq hv]
      exact hv

end Join

/-! ## 3. What a distribution says of the four notifications -/

def JoinNotifications.all (n : JoinNotifications) : List JoinNotice :=
  [n.noSignaling, n.localSignaling, n.publicSignalingIpv4, n.publicSignalingIpv6]

theorem JoinNotifications.mem_all {x : JoinNotice} :
    x ∈ n.all ↔ x = n.noSignaling ∨ ∃ c, x = n.onRoute c := by
  simp only [all, List.mem_cons, List.not_mem_nil, or_false]
  constructor
  · rintro (h | h | h | h)
    · exact Or.inl h
    · exact Or.inr ⟨.localNet, h⟩
    · exact Or.inr ⟨.publicIpv4, h⟩
    · exact Or.inr ⟨.publicIpv6, h⟩
  · rintro (h | ⟨c, h⟩)
    · exact Or.inl h
    · cases c with
      | localNet => exact Or.inr (Or.inl h)
      | publicIpv4 => exact Or.inr (Or.inr (Or.inl h))
      | publicIpv6 => exact Or.inr (Or.inr (Or.inr h))

section Distributes

variable {room : Room} {sig : ClientSharedSignalingInfo} {l : List RoomUser}
  {n : JoinNotifications} (hwf : room.Wf) (h : room.Distributes sig l n)
include hwf h

theorem Distributes.user_inj {v : RoomUser} (hu : u ∈ l) (hv : v ∈ l) (e : u.userId = v.userId) :
    u = v := by
  have hget := h.members u hu
  rw [hwf.user_inj hget (h.members v hv) e, h.members v hv] at hget
  exact (Option.some.inj hget).symm

theorem Distributes.routes_disjoint {c c' : Route} (hne : c ≠ c') :
    Disjoint (recipients (n.onRoute c)) (recipients (n.onRoute c')) := by
  rw [Finset.disjoint_left]
  intro id hid hid'
  obtain ⟨u, hu, rfl, rfl⟩ := (h.introduced.mem c id).mp hid
  obtain ⟨v, hv, rfl, e⟩ := (h.introduced.mem c' _).mp hid'
  exact hne (by rw [h.user_inj hwf hu hv e.symm])

omit hwf in
theorem Distributes.plain_disjoint (c : Route) :
    Disjoint (recipients n.noSignaling) (recipients (n.onRoute c)) := by
  rw [Finset.disjoint_left]
  intro id hid hid'
  obtain ⟨u, hu, -, e⟩ := (h.introduced.mem c id).mp hid'
  exact ((h.rest id).mp hid).2 u hu e

theorem Distributes.pairwise_disjoint : (n.all.map recipients).Pairwise Disjoint := by
  have hroute (c c' : Route) (hne : c ≠ c') := h.routes_disjoint hwf hne
  show [recipients n.noSignaling, recipients (n.onRoute .localNet),
    recipients (n.onRoute .publicIpv4), recipients (n.onRoute .publicIpv6)].Pairwise Disjoint
  refine List.Pairwise.cons ?_ (List.Pairwise.cons ?_ (List.Pairwise.cons ?_
    (List.pairwise_singleton _ _)))
  · intro s hs
    simp only [List.mem_cons, List.not_mem_nil, or_false] at hs
    rcases hs with rfl | rfl | rfl
    · exact h.plain_disjoint .localNet
    · exact h.plain_disjoint .publicIpv4
    · exact h.plain_disjoint .publicIpv6
  · intro s hs
    simp only [List.mem_cons, List.not_mem_nil, or_false] at hs
    rcases hs with rfl | rfl
    · exact hroute _ _ (by decide)
    · exact hroute _ _ (by decide)
  · intro s hs
    rw [List.mem_singleton.mp hs]
    exact hroute _ _ (by decide)

omit hwf in
theorem Distributes.union (id : UserId) :
    (∃ x ∈ n.all, id ∈ recipients x) ↔ id ∈ room.getRoomUserIds := by
  constructor
  · rintro ⟨x, hx, hid⟩
    rcases JoinNotifications.mem_all.mp hx with rfl | ⟨c, rfl⟩
    · exact ((h.rest id).mp hid).1
    · obtain ⟨u, hu, -, rfl⟩ := (h.introduced.mem c id).mp hid
      exact mem_getRoomUserIds.mpr ⟨u.memberId, u, h.members u hu, rfl⟩
  · intro hid
    by_cases hl : ∀ u ∈ l, u.userId ≠ id
    · exact ⟨_, JoinNotifications.mem_all.mpr (Or.inl rfl), (h.rest id).mpr ⟨hid, hl⟩⟩
    · simp only [not_forall, not_not] at hl
      obtain ⟨u, hu, e⟩ := hl
      exact ⟨_, JoinNotifications.mem_all.mpr (Or.inr ⟨routeOf sig u, rfl⟩),
        (h.introduced.mem _ id).mpr ⟨u, hu, rfl, e⟩⟩

theorem Distributes.introduced_iff (hget : room.users[u.memberId]? = some u) :
    u ∈ l ↔ ∃ x ∈ n.all, Addressed x ∧ u.userId ∈ recipients x := by
  constructor
  · intro hu
    have hmem : u.userId ∈ recipients (n.onRoute (routeOf sig u)) :=
      (h.introduced.mem _ _).mpr ⟨u, hu, rfl, rfl⟩
    refine ⟨_, JoinNotifications.mem_all.mpr (Or.inr ⟨routeOf sig u, rfl⟩),
      h.introduced.addressed _ fun hnone => ?_, hmem⟩
    rw [hnone] at hmem
    exact absurd hmem (Finset.notMem_empty _)
  · rintro ⟨x, hx, haddr, hid⟩
    rcases JoinNotifications.mem_all.mp hx with rfl | ⟨c, rfl⟩
    · exact absurd haddr h.plain
    · obtain ⟨v, hv, -, e⟩ := (h.introduced.mem c _).mp hid
      have hid := hwf.user_inj (h.members v hv) hget e
      have hvget := h.members v hv
      rw [hid, hget] at hvget
      cases hvget
      exact hv

omit hwf in
theorem Distributes.listed_nodup : (n.signalingListReply.map (·.1)).Nodup := by
  rw [h.introduced.listed]
  refine List.Nodup.map_on (fun u hu v hv e => ?_) h.nodup
  have hget := h.members u hu
  rw [e, h.members v hv] at hget
  exact (Option.some.inj hget).symm

theorem Distributes.mem_listed (hkey : ∀ {mid : UInt16} {u : RoomUser},
      room.users[mid]? = some u → u.memberId = mid) (mid : UInt16) :
    mid ∈ n.signalingListReply.map (·.1) ↔ ∃ u, room.users[mid]? = some u ∧
      ∃ x ∈ n.all, Addressed x ∧ u.userId ∈ recipients x := by
  rw [h.introduced.listed, List.mem_map]
  constructor
  · rintro ⟨u, hu, rfl⟩
    have hget := h.members u hu
    exact ⟨u, hget, (h.introduced_iff hwf hget).mp hu⟩
  · rintro ⟨u, hget, hx⟩
    obtain rfl := hkey hget
    exact ⟨u, (h.introduced_iff hwf hget).mpr hx, rfl⟩

end Distributes

end Room

/-! ## 4. A join -/

def signalingEntry (e : UInt16 × List UInt8 × UInt16) : Matching2SignalingInfo :=
  ⟨Uint16.newFromValue e.1, some ⟨e.2.1, Uint16.newFromValue e.2.2⟩⟩

namespace RoomManager

theorem joinRoom_eq_ok {m m' : RoomManager} {comId : ComId} {req : JoinRoomRequest}
    {cinfo : ClientInfo} {now : UInt64} {res : JoinResult}
    (h : joinRoom comId req cinfo sig now m = (.ok res, m')) :
    ∃ room r' memberId previous n, m.rooms.get? (comId, req.roomId) = some room ∧
      Room.letIn req cinfo sig now room = (.ok (memberId, previous), r') ∧
      r'.joinNotifications req.roomId memberId req.optData sig previous = .ok n ∧
      res.notifications = n.all ∧
      res.reply.signalingData = n.signalingListReply.map signalingEntry ∧
      m'.rooms.get? (comId, req.roomId) = some r' := by
  rw [joinRoom, Call.read_bind_run] at h
  obtain ⟨room, hr, h⟩ := Call.unwrap_bind_eq_ok h
  obtain ⟨⟨memberId, previous⟩, m₁, hon, h⟩ := Call.bind_eq_ok h
  rcases ha : Room.letIn req cinfo sig now room with ⟨o, r'⟩
  rw [onRoom, Call.within_run, ha] at hon
  cases hon
  change joinReply comId req sig memberId previous _ = _ at h
  rw [joinReply, Call.read_bind_run] at h
  obtain ⟨stored, hstored, h⟩ := Call.unwrap_bind_eq_ok h
  have hstored : (m.rooms.insert (comId, req.roomId) r').get? (comId, req.roomId) =
    some stored := hstored
  rw [HashMap.get?_insert, if_pos rfl] at hstored
  cases hstored
  obtain ⟨n, m₂, hn, h⟩ := Call.bind_eq_ok h
  cases hjoin : r'.joinNotifications req.roomId memberId req.optData sig previous with
  | error p =>
    rw [hjoin] at hn
    cases hn
  | ok n' =>
    rw [hjoin] at hn
    cases hn
    obtain ⟨data, -, h⟩ := Call.unwrap_bind_eq_ok h
    cases h
    exact ⟨room, r', memberId, previous, n, hr, ha, hjoin, rfl, rfl,
      (HashMap.get?_insert _ _ _ _).trans (if_pos rfl)⟩

end RoomManager

theorem newFromValue_injective : Function.Injective Uint16.newFromValue := by
  intro a b h
  have h : a.toUInt32 = b.toUInt32 := congrArg Uint16.value (Option.some.inj h)
  have h := congrArg UInt32.toNat h
  rw [UInt16.toNat_toUInt32, UInt16.toNat_toUInt32] at h
  exact UInt16.toNat_inj.mp h

def joinFirstRoom : JoinRoomRequest := { joinWithoutTeam with teamId := some ⟨0⟩ }

theorem withStar_run (hub : UInt32) : ∃ es, roomSystem.Run es (withStar hub) :=
  ⟨_, System.Run.start.step (openStar hub) trivial⟩

theorem withStar_stored : ∃ room, (withStar 0).rooms.get? (zeroComId, 1) = some room ∧
    (2 : UserId) ∉ room.getRoomUserIds ∧ room.HubPresent := by
  have h : ((withStar 0).rooms.get? (zeroComId, 1)).map (fun r =>
      (decide ((2 : UserId) ∈ r.getRoomUserIds), r.signalingParam.map (fun p =>
        (r.hubOf p).isSome))) = some (false, some true) := by decide +kernel
  obtain ⟨room, hr, hview⟩ := Option.map_eq_some_iff.mp h
  obtain ⟨hnew, hhub⟩ := Prod.mk.inj hview
  refine ⟨room, hr, of_decide_eq_false hnew, fun p hp => ?_⟩
  rw [hp.1, Option.map_some] at hhub
  exact Option.isSome_iff_exists.mp (Option.some.inj hhub)

end Rpcn
