/-
  File:      Rpcn/Session/Ghosts.lean
  Subject:   NO GHOST MEMBERS: `clean_user_state` takes a user out of every room, although it reads the
             sets of rooms once and gives up the locks between the leaves.

  The rooms still to be left are an upper bound for the rooms the user is in: it holds when the set is
  read, each leave takes its room off both, and nobody else can put the user into a room
  (Session/Members.lean).
-/
import Rpcn.Session.Exclusion
import Rpcn.Session.Members

namespace Rpcn.Session

open Lib Account RoomManager Task

/-! ## 1. Places -/

def CleanPc.rooms : CleanPc → Option (List (ComId × UInt64))
  | .start => none
  | .leaving rest => some rest
  | _ => some []

def CleanPc.guiRooms : CleanPc → Option (List GuiRoomId)
  | .leavingGui rest => some rest
  | .leftGui => some []
  | .psnDone => some []
  | .returned => some []
  | _ => none

variable {u : UserId} {pc : CleanPc}

namespace Task

def cleaning : Task → Option (UserId × CleanPc)
  | .client c (.resetState pc) => some (c.userId, pc)
  | .cleanup c (.clean pc) => some (c.userId, pc)
  | .cleanup c _ => some (c.userId, .returned)
  | _ => none

theorem session_of_cleaning {t : Task} (hp : t.Placed) (h : t.cleaning = some (u, pc)) :
    t.session = some u := by
  cases t with
  | client c job =>
    cases job with
    | resetState pc' =>
      cases h
      simp [session, hp.1]
    | _ => cases h
  | cleanup c pc' => cases pc' <;> cases h <;> rfl
  | _ => cases h

theorem cleaning_resume (c : Client) : c.resume.cleaning = none := by
  unfold Client.resume
  split <;> rfl

end Task

section Programs

variable {cfg : Config} {ch : Choice} {s s' : SharedData} {i : Nat} {c : Client} {t t' : Task}
  {e : Event}

inductive Worked (s : SharedData) (i : Nat) (t : Task) (s' : SharedData) (t' : Task) : Prop where
  | fresh (h : ∀ u pc, t'.cleaning = some (u, pc) → pc = .start)
  | cleaned (ch : Choice) (c c' : Client) (pc pc' : CleanPc) (e : Event)
      (ht : t.cleaning = some (c.userId, pc)) (ht' : t'.cleaning = some (c'.userId, pc'))
      (hs : cleanStep ch s i c pc = some (e, s', c', pc'))
  | resting (u : UserId) (ht : t.cleaning = some (u, .returned))
      (ht' : t'.cleaning = some (u, .returned)) (hr : s'.roomManager = s.roomManager)
      (hg : s'.guiRoomManager = s.guiRoomManager)

theorem Worked.idle (h : t'.cleaning = none) : Worked s i t s' t' :=
  .fresh fun u pc hu => by
    rw [h] at hu
    cases hu

theorem loginStep_worked {login : String} {row : AccountRow} {pc : LoginPc}
    (hs : loginStep ch s i c u login row pc = some (e, s', t')) : Worked s i t s' t' := by
  refine .idle ?_
  cases pc <;> grind [loginStep, cleaning, cleaning_resume, Option.map_eq_some_iff]

theorem deleteStep_worked {username emailCheck : String} {pc : DeletePc}
    (hs : deleteStep cfg ch s i c u username emailCheck pc = some (e, s', t')) :
    Worked s i t s' t' := by
  refine .idle ?_
  cases pc <;> grind [deleteStep, cleaning, cleaning_resume, Option.map_eq_some_iff]

theorem apiStep_worked {pc : ApiPc} (hs : apiStep cfg s pc = some (e, s', t')) :
    Worked s i t s' t' := by
  refine .idle ?_
  cases pc <;> grind [apiStep, cleaning, Option.map_eq_some_iff]

theorem cleanerStep_worked {pc : CleanerPc} (hs : cleanerStep ch s i pc = some (e, s', t')) :
    Worked s i t s' t' := by
  refine .idle ?_
  cases pc <;> grind [cleanerStep, cleaning, Option.map_eq_some_iff]

theorem cleanupStep_worked {pc : CleanupPc} (hs : cleanupStep ch s i c pc = some (e, s', t')) :
    Worked s i (.cleanup c pc) s' t' := by
  cases cleanupStep_cases hs with
  | cleaned hr => exact .cleaned ch _ _ _ _ _ rfl rfl hr
  | uncounted => exact .resting c.userId rfl rfl rfl rfl
  | removed hw => exact .resting c.userId rfl rfl rfl rfl
  | announced => exact .resting c.userId rfl rfl rfl rfl
  | ended => exact .idle rfl

theorem nextStep_worked (hs : nextStep cfg ch s i t = some (e, s', t')) : Worked s i t s' t' := by
  cases t with
  | client c job =>
    cases job with
    | login pc u login row => exact loginStep_worked hs
    | delete pc u username emailCheck => exact deleteStep_worked hs
    | resetState pc =>
      by_cases hpc : pc = .returned
      · subst hpc
        cases hs
        exact .idle rfl
      · obtain ⟨c₁, pc₁, hr, rfl⟩ := nextStep_resetState hpc hs
        exact .cleaned ch c c₁ pc pc₁ _ rfl rfl hr
    | ban pc =>
      obtain ⟨⟨e₁, s₁, r⟩, _, heq⟩ := Option.map_eq_some_iff.mp hs
      cases heq
      exact .idle (by cases r <;> rfl)
    | _ =>
      refine .idle ?_
      grind [nextStep, cleaning, cleaning_resume]
  | cleanup c pc => exact cleanupStep_worked hs
  | gone => cases hs
  | api pc => exact apiStep_worked hs
  | cleaner pc => exact cleanerStep_worked hs

theorem requestStep_worked {r : Request} (hs : requestStep cfg s i c r = some (e, s', t')) :
    Worked s i t s' t' := by
  refine .fresh fun u pc hu => ?_
  cases r <;> grind [requestStep, cleaning, comIdStep, ticketStep]

theorem abortStep_worked (hs : abortStep s t = some (e, s', t')) : Worked s i t s' t' := by
  refine .idle ?_
  cases t with
  | client c job =>
    cases job with
    | login pc u login row => cases pc <;> grind [abortStep, cleaning_resume]
    | _ => grind [abortStep, cleaning_resume]
  | _ => grind [abortStep, cleaning]

theorem dropStep_worked (hs : dropStep s t = some (e, s', t')) : Worked s i t s' t' := by
  refine .fresh fun u pc hu => ?_
  cases t with
  | client c job => cases job <;> grind [dropStep, dropClient, cleaning]
  | _ => grind [dropStep]

theorem Program.worked (hp : Program cfg s i e s' t' t) : Worked s i t s' t' := by
  cases hp with
  | request c r hf => exact requestStep_worked hf
  | next _ ch hf => exact nextStep_worked hf
  | abort _ hf => exact abortStep_worked hf
  | drop _ hf => exact dropStep_worked hf

end Programs

/-! ## 2. The managers of a run -/

def Event.room : Event → Option (RoomOp × RoomOutcome)
  | .roomCall _ _ op outcome => some (op, outcome)
  | _ => none

def Event.gui : Event → Option (GuiOp × GuiOutcome × Option GuiRoomId)
  | .guiCall _ _ op outcome => some (op, outcome)
  | _ => none

def roomEvents (es : List (SessionOp × Event)) : List (RoomOp × RoomOutcome) :=
  es.filterMap fun e => e.2.room

def guiEvents (es : List (SessionOp × Event)) : List (GuiOp × GuiOutcome × Option GuiRoomId) :=
  es.filterMap fun e => e.2.gui

variable (es : List (SessionOp × Event)) (op : SessionOp) (e : Event)

theorem roomEvents_snoc : roomEvents (es ++ [(op, e)]) = roomEvents es ++ e.room.toList := by
  cases h : e.room <;> simp [roomEvents, h]

theorem guiEvents_snoc : guiEvents (es ++ [(op, e)]) = guiEvents es ++ e.gui.toList := by
  cases h : e.gui <;> simp [guiEvents, h]

section Moves

variable {s s' : SharedData} {i : Nat} {t t' : Task} {e : Event}

theorem Move.room (hm : Move s i t e s' t') :
    e.room = none ∧ s'.roomManager = s.roomManager ∨
    ∃ cinfo op, t.session = some cinfo.userId ∧ RoomOp.MadeBy cinfo op ∧
      e.room = some (op, (op.call s.roomManager).1) ∧
      s'.roomManager = (op.call s.roomManager).2 := by
  cases hm with
  | roomCall cinfo op _ hs hop _ => exact Or.inr ⟨cinfo, op, hs, hop, rfl, rfl⟩
  | looked u _ _ _ _ =>
    unfold SharedData.kick
    split <;> exact Or.inl ⟨rfl, rfl⟩
  | _ => exact Or.inl ⟨rfl, rfl⟩

theorem Move.gui (hm : Move s i t e s' t') :
    e.gui = none ∧ s'.guiRoomManager = s.guiRoomManager ∨
    ∃ cinfo op, t.session = some cinfo.userId ∧ GuiOp.MadeBy cinfo op ∧
      op.Possible s.guiRoomManager ∧
      e.gui = some (op, (op.call s.guiRoomManager).1, op.generated s.guiRoomManager) ∧
      s'.guiRoomManager = (op.call s.guiRoomManager).2 := by
  cases hm with
  | guiCall cinfo op _ hs hop hp _ => exact Or.inr ⟨cinfo, op, hs, hop, hp, rfl, rfl⟩
  | looked u _ _ _ _ =>
    unfold SharedData.kick
    split <;> exact Or.inl ⟨rfl, rfl⟩
  | _ => exact Or.inl ⟨rfl, rfl⟩

end Moves

theorem managers_of_run {cfg : Config} {db : Account.Database} {es : List (SessionOp × Event)}
    {p : Pool SharedData Task} (h : (sessionSystem cfg db).Run es p) :
    roomSystem.Run (roomEvents es) p.shared.roomManager ∧
      guiSystem.Run (guiEvents es) p.shared.guiRoomManager := by
  refine run_induction (I := fun es p => roomSystem.Run (roomEvents es) p.shared.roomManager ∧
    guiSystem.Run (guiEvents es) p.shared.guiRoomManager) ⟨.start, .start⟩ ?_ h
  intro es p op e p' _ hserved ih
  rw [roomEvents_snoc, guiEvents_snoc]
  cases hserved with
  | spawned t _ =>
    rw [show Event.silent.room = none from rfl, show Event.silent.gui = none from rfl,
      Option.toList_none, List.append_nil, Option.toList_none, List.append_nil]
    exact ih
  | stepped i t e s' t' _ hst =>
    refine ⟨?_, ?_⟩
    · show roomSystem.Run _ s'.roomManager
      rcases hst.move.room with ⟨he, hs⟩ | ⟨cinfo, op, _, _, he, hs⟩
      · rw [he, hs, Option.toList_none, List.append_nil]
        exact ih.1
      · rw [he, hs]
        exact .step op ih.1 trivial
    · show guiSystem.Run _ s'.guiRoomManager
      rcases hst.move.gui with ⟨he, hs⟩ | ⟨cinfo, op, _, _, hp, he, hs⟩
      · rw [he, hs, Option.toList_none, List.append_nil]
        exact ih.2
      · rw [he, hs]
        exact .step op ih.2 hp

/-! ## 3. Cleaning -/

structure Cleaned (s : SharedData) (u : UserId) (pc : CleanPc) : Prop where
  rooms : ∀ rest, pc.rooms = some rest → ∀ key, s.roomManager.MemberOf u key → key ∈ rest
  guiRooms : ∀ rest, pc.guiRooms = some rest →
    ∀ roomId, s.guiRoomManager.MemberOf u roomId → roomId ∈ rest

theorem cleaned_start (s : SharedData) (u : UserId) : Cleaned s u .start :=
  ⟨fun _ h => (by cases h), fun _ h => (by cases h)⟩

variable {s : SharedData}

theorem Cleaned.mono {s' : SharedData} (h : Cleaned s u pc)
    (hr : ∀ key, s'.roomManager.MemberOf u key → s.roomManager.MemberOf u key)
    (hg : ∀ roomId, s'.guiRoomManager.MemberOf u roomId → s.guiRoomManager.MemberOf u roomId) :
    Cleaned s' u pc :=
  ⟨fun rest hpc key hu => h.rooms rest hpc key (hr key hu),
    fun rest hpc roomId hu => h.guiRooms rest hpc roomId (hg roomId hu)⟩

variable {pc' : CleanPc}

theorem Cleaned.same (h : Cleaned s u pc) (hr : pc'.rooms = pc.rooms)
    (hg : pc'.guiRooms = pc.guiRooms) : Cleaned s u pc' :=
  ⟨fun rest hpc => h.rooms rest (hr ▸ hpc), fun rest hpc => h.guiRooms rest (hg ▸ hpc)⟩

variable {cinfo : ClientInfo}

theorem enters_madeBy {op : RoomOp} (h : RoomOp.MadeBy cinfo op)
    (hu : enters op = some u) : cinfo.userId = u := by
  cases op <;> simp_all [RoomOp.MadeBy, enters]

theorem enters_madeBy_gui {op : GuiOp} (h : GuiOp.MadeBy cinfo op)
    (hu : GuiRoomManager.enters op = some u) : cinfo.userId = u := by
  cases op <;> simp_all [GuiOp.MadeBy, GuiRoomManager.enters]

variable {comId : ComId} {roomId : UInt64} {random : Nat}

section Steps

variable {s s' : SharedData} {i : Nat} {t t' : Task} {e : Event}
  (hinv : RoomManager.Inv s.roomManager) (hlist : GuiRoomManager.Listed s.guiRoomManager)

include hinv hlist

theorem Cleaned.other (h : Cleaned s u pc) (hm : Move s i t e s' t') (hne : t.session ≠ some u) :
    Cleaned s' u pc := by
  refine h.mono ?_ ?_
  · intro key hu
    rcases hm.room with ⟨_, hs⟩ | ⟨cinfo, op, hsess, hop, _, hs⟩
    · rwa [hs] at hu
    · rw [hs] at hu
      rcases (call_change hinv op).memberOf hu with hu | hent
      · exact hu
      · rw [enters_madeBy hop hent] at hsess
        exact absurd hsess hne
  · intro roomId hu
    rcases hm.gui with ⟨_, hs⟩ | ⟨cinfo, op, hsess, hop, hp, _, hs⟩
    · rwa [hs] at hu
    · rw [hs] at hu
      rcases GuiRoomManager.memberOf_of_call hlist hp hu with hu | hent
      · exact hu
      · rw [enters_madeBy_gui hop hent] at hsess
        exact absurd hsess hne

omit hlist in
theorem leaveRoom_memberOf {key : ComId × UInt64}
    (h : (s.leaveRoom i u comId roomId random).2.roomManager.MemberOf u key) :
    s.roomManager.MemberOf u key ∧ key ≠ (comId, roomId) := by
  unfold SharedData.leaveRoom at h
  split at h
  · rename_i hnone
    refine ⟨h, fun hkey => ?_⟩
    obtain ⟨room, hr, _⟩ := h
    rw [hkey, hnone] at hr
    cases hr
  · rename_i room hr
    split at h
    · rename_i err hget
      refine ⟨h, fun hkey => ?_⟩
      obtain ⟨room', hr', hu⟩ := h
      rw [hkey, hr] at hr'
      cases hr'
      refine Room.memberOf_none ?_ hu
      unfold Room.getMemberId at hget
      cases hm : room.memberOf u with
      | none => rfl
      | some mid =>
        rw [hm] at hget
        cases hget
    · refine ⟨?_, fun hkey => ?_⟩
      · rcases (call_change hinv (.leaveRoom comId roomId u random)).memberOf h with h | h
        · exact h
        · cases h
      · rw [hkey] at h
        exact leaveRoom_gone hinv comId roomId u random h

omit hinv in
theorem callGui_memberOf {roomId roomId' : GuiRoomId} {order : List UserId}
    (hp : (GuiOp.leaveRoomGui roomId cinfo order random).Possible s.guiRoomManager)
    (h : ((GuiOp.leaveRoomGui roomId cinfo order random).call s.guiRoomManager).2.MemberOf
      cinfo.userId roomId') :
    s.guiRoomManager.MemberOf cinfo.userId roomId' ∧ roomId' ≠ roomId := by
  refine ⟨?_, fun hid => ?_⟩
  · rcases GuiRoomManager.memberOf_of_call hlist hp h with h | h
    · exact h
    · cases h
  · rw [hid, GuiOp.call, Call.mapOk_state] at h
    exact GuiRoomManager.leaveRoomGui_gone hlist roomId cinfo order random hp h

theorem cleanStep_cleaned {ch : Choice} {c c' : Client} (h : Cleaned s c.userId pc)
    (hs : cleanStep ch s i c pc = some (e, s', c', pc')) :
    c'.userId = c.userId ∧ Cleaned s' c.userId pc' := by
  cases pc with
  | start =>
    simp only [cleanStep] at hs
    split at hs
    · rename_i ho
      cases hs
      refine ⟨rfl, ?_, fun _ hpc => by cases hpc⟩
      intro rest hrest key hu
      cases hrest
      obtain ⟨room, hr, hmem⟩ := hu
      rw [← List.mem_toFinset, ho.2]
      exact hinv.member hr hmem
    · cases hs
  | leaving rest =>
    cases rest with
    | nil =>
      cases hs
      exact ⟨rfl, h.same rfl rfl⟩
    | cons key rest =>
      obtain ⟨comId, roomId⟩ := key
      simp only [cleanStep, Option.some.injEq, Prod.mk.injEq] at hs
      obtain ⟨rfl, rfl, rfl, rfl⟩ := hs
      refine ⟨rfl, ?_, fun _ hpc => by cases hpc⟩
      intro rest' hrest key hu
      cases hrest
      obtain ⟨hu, hne⟩ := leaveRoom_memberOf hinv hu
      exact (List.mem_cons.mp (h.rooms _ rfl key hu)).resolve_left hne
  | left =>
    simp only [cleanStep] at hs
    split at hs
    · rename_i ho
      cases hs
      refine ⟨rfl, h.rooms, ?_⟩
      intro rest hrest roomId hu
      cases hrest
      obtain ⟨room, hr, hmem⟩ := hu
      rw [← List.mem_toFinset, ho.2]
      exact hlist.member hr hmem
    · cases hs
  | leavingGui rest =>
    cases rest with
    | nil =>
      cases hs
      exact ⟨rfl, h.same rfl rfl⟩
    | cons roomId rest =>
      simp only [cleanStep] at hs
      split at hs
      · rename_i hp
        cases hs
        refine ⟨rfl, h.rooms, ?_⟩
        intro rest' hrest roomId' hu
        cases hrest
        obtain ⟨hu, hne⟩ := callGui_memberOf hlist hp hu
        exact (List.mem_cons.mp (h.guiRooms _ rfl roomId' hu)).resolve_left hne
      · cases hs
  | leftGui =>
    simp only [cleanStep] at hs
    split at hs <;> cases hs <;> exact ⟨rfl, h.rooms, h.guiRooms⟩
  | psnDone =>
    simp only [cleanStep] at hs
    split at hs <;> cases hs <;> exact ⟨rfl, h.rooms, h.guiRooms⟩
  | returned => cases hs

theorem Worked.cleaned_of (hw : Worked s i t s' t')
    (h : ∀ u pc, t.cleaning = some (u, pc) → Cleaned s u pc) :
    ∀ u pc, t'.cleaning = some (u, pc) → Cleaned s' u pc := by
  intro u pc hu
  cases hw with
  | fresh hf =>
    rw [hf u pc hu]
    exact cleaned_start s' u
  | cleaned ch c c' pc₀ pc' e ht ht' hs =>
    obtain ⟨hid, hc⟩ := cleanStep_cleaned hinv hlist (h _ _ ht) hs
    cases ht'.symm.trans hu
    rw [hid]
    exact hc
  | resting v ht ht' hr hg =>
    cases ht'.symm.trans hu
    refine (h _ _ ht).mono (fun key hm => ?_) fun roomId hm => ?_
    · rwa [hr] at hm
    · rwa [hg] at hm

end Steps

/-! ## 4. Runs -/

section Runs

variable {cfg : Config} {db : Account.Database} {es : List (SessionOp × Event)}
  {p : Pool SharedData Task}

theorem cleaned_of_run (h : (sessionSystem cfg db).Run es p) :
    p.All fun s _ t => ∀ u pc, t.cleaning = some (u, pc) → Cleaned s u pc := by
  unfold sessionSystem at h
  refine h.carried (I := fun _ p => p.All fun s _ t =>
    ∀ u pc, t.cleaning = some (u, pc) → Cleaned s u pc) ?_ ?_
  · intro i t hi u pc hu
    cases i with
    | zero =>
      cases hi
      cases hu
    | succ i => simp at hi
  · intro es p op e p' hrun ih hs
    have hsound := sound_of_run hrun
    obtain ⟨hrooms, hgui⟩ := managers_of_run hrun
    have hinv := inv_of_run hrooms
    have hlist := listed_of_run hgui
    rcases serve_cases hs with ⟨t, ht, _, rfl⟩ | ⟨i, t, s', t', hi, rfl, hp⟩
    · refine ih.spawn fun u pc hu => ?_
      have := session_of_cleaning ht.placed hu
      rw [show t.session = none from congrArg Standing.session ht.standing] at this
      cases this
    · have hst := hp.stepped hsound hi
      refine ih.update (hp.worked.cleaned_of hinv hlist (ih i t hi)) ?_
      intro j x hne hj hx u pc hu
      refine (hx u pc hu).other hinv hlist hst.move fun hsess => hne ?_
      have hu' := session_of_cleaning (hsound.ok j x hj).placed hu
      exact hsound.apart j i x t u hj hi hu' hsess

/-- **No ghost members.** Whatever the others did meanwhile: when `clean_user_state` of a user has
    returned, the user is in no room of either manager; and, as long as no counter of room ids has
    gone round, on the lists of both managers there is nothing under the user's id. -/
theorem no_ghost_members (h : (sessionSystem cfg db).Run es p) {i : Nat} {t : Task} {u : UserId}
    (hi : p.tasks[i]? = some t) (ht : t.cleaning = some (u, .returned)) :
    (∀ key room, p.shared.roomManager.rooms.get? key = some room →
      ∀ (memberId : UInt16) (member : RoomUser), room.users[memberId]? = some member →
        member.userId ≠ u) ∧
    (∀ roomId room, p.shared.guiRoomManager.rooms.get? roomId = some room →
      u ∉ room.members.keys) ∧
    ((∀ c, uses (handedOut (roomEvents es)) c ≤ 2 ^ 64) →
      p.shared.roomManager.userRooms.setAt u = ∅) ∧
    ((generatedIds (guiEvents es)).length ≤ 2 ^ 64 →
      p.shared.guiRoomManager.userRooms.setAt u = ∅) := by
  have hc := cleaned_of_run h i t hi u .returned ht
  obtain ⟨hrooms, hgui⟩ := managers_of_run h
  have hno : ∀ key, ¬ p.shared.roomManager.MemberOf u key := fun key hu => by
    cases hc.rooms [] rfl key hu
  have hnoGui : ∀ roomId, ¬ p.shared.guiRoomManager.MemberOf u roomId := fun roomId hu => by
    cases hc.guiRooms [] rfl roomId hu
  refine ⟨?_, ?_, ?_, ?_⟩
  · intro key room hr memberId member hm hu
    exact hno key ⟨room, hr, Room.mem_getRoomUserIds.mpr ⟨memberId, member, hm, hu⟩⟩
  · intro roomId room hr hu
    exact hnoGui roomId ⟨room, hr, hu⟩
  · intro hb
    refine Finset.eq_empty_of_forall_notMem fun key hkey => ?_
    obtain ⟨room, hr, hu⟩ := (exact_of_run hrooms hb).listed hkey
    exact hno key ⟨room, hr, hu⟩
  · intro hb
    refine Finset.eq_empty_of_forall_notMem fun roomId hkey => ?_
    obtain ⟨room, hr, hu⟩ := (indexed_of_run hgui hb).1.joined hkey
    exact hnoGui roomId ⟨room, hr, hu⟩

end Runs

/-! ## 5. Two users -/

def adaInfo : ClientInfo := ⟨1, "ada", "ada", ""⟩

def bobInfo : ClientInfo := ⟨2, "bob", "bob", ""⟩

def openRoomBy (cinfo : ClientInfo) : RoomOp :=
  .createRoom zeroComId roomForTwo cinfo 0 ClientSharedSignalingInfo.new 0

def joinFirstRoom : Np2Structs.JoinRoomRequest where
  roomId := 1
  roomPassword := []
  joinRoomGroupLabel := []
  roomMemberBinAttrInternal := []
  optData := none
  teamId := some ⟨0⟩

theorem no_ghost_members_joined :
    ∃ es p room, (sessionSystem openConfig twoAccounts).Run es p ∧
      p.shared.roomManager.rooms.get? (zeroComId, 1) = some room ∧ room.getRoomUserIds = {2} ∧
      p.shared.roomManager.userRooms.setAt 1 = ∅ := by
  have hrun : (runOps twoAccounts (loginOps 1 "ada" ++ loginOps 2 "bob" ++
      [SessionOp.request 1 (.room (openRoomBy adaInfo)), .drop 1, .next 1 { rooms := [(zeroComId, 1)] },
        .request 2 (.room (.joinRoom zeroComId joinFirstRoom bobInfo
          ClientSharedSignalingInfo.new 0))] ++
      List.replicate 7 (SessionOp.next 1 {}))).map (fun r => (r.2.tasks[1]?.bind Task.cleaning,
        (r.2.shared.roomManager.rooms.get? (zeroComId, 1)).map Room.getRoomUserIds,
        (handedOut (roomEvents r.1)).length)) =
      some (some (1, .returned), some {2}, 1) := by
    decide +kernel
  obtain ⟨r, hr, hfacts⟩ := Option.map_eq_some_iff.mp hrun
  have h := run_of_runOps hr
  obtain ⟨t, hi, ht⟩ := Option.bind_eq_some_iff.mp (congrArg Prod.fst hfacts)
  obtain ⟨room, hroom, hids⟩ := Option.map_eq_some_iff.mp (congrArg (fun f => f.2.1) hfacts)
  have hlen : (handedOut (roomEvents r.1)).length = 1 := congrArg (fun f => f.2.2) hfacts
  refine ⟨r.1, r.2, room, h, hroom, hids, (no_ghost_members h hi ht).2.2.1 fun c => ?_⟩
  exact le_trans List.countP_le_length (by omega)

/-! ## 6. A counter that goes round -/

def adaClient : Client := ⟨true, adaInfo, false, (none, none)⟩

def bobClient : Client := ⟨true, bobInfo, false, (none, none)⟩

def bothOnline (s : SharedData) (m : RoomManager) (job : Job) : Pool SharedData Task :=
  ⟨{ s with roomManager := m },
    [.cleaner .sleeping, .client adaClient job, .client bobClient .idle]⟩

theorem call_openRoomBy (cinfo : ClientInfo) (m : RoomManager) :
    ∃ room : Room, room.Founded roomForTwo cinfo (m.cnt zeroComId + 1) ∧
      ((openRoomBy cinfo).call m).2 = m.stored zeroComId room cinfo.userId := by
  obtain ⟨resp, hresp⟩ :=
    createRoom_plain roomForTwo_creatable rfl rfl m zeroComId cinfo 0
  have hs := createRoom_step m zeroComId roomForTwo cinfo 0
    ClientSharedSignalingInfo.new 0
  rw [openRoomBy, RoomOp.call, Call.mapOk_state]
  generalize createRoom zeroComId roomForTwo cinfo 0 ClientSharedSignalingInfo.new 0 m
    = x at hs hresp
  obtain ⟨o, m'⟩ := x
  cases hresp
  cases hs with
  | created room _ hf _ => exact ⟨room, hf, rfl⟩

structure Wrapping (m : RoomManager) (n : Nat) : Prop where
  listed : m.userRooms.setAt 1 = {(zeroComId, 1)}
  cnt : m.cnt zeroComId = UInt64.ofNat (n + 1)
  last : n ≠ 0 → ∃ room, m.rooms.get? (zeroComId, UInt64.ofNat (n + 1)) = some room ∧
    room.getRoomUserIds = {2}

variable {m : RoomManager}

theorem Wrapping.succ {n : Nat} (h : Wrapping m n) :
    Wrapping ((openRoomBy bobInfo).call m).2 (n + 1) := by
  obtain ⟨room, hf, hrun⟩ := call_openRoomBy bobInfo m
  have hid : room.roomId = UInt64.ofNat (n + 1 + 1) := by
    rw [hf.roomId, h.cnt, UInt64.ofNat_add (n + 1)]
    rfl
  rw [hrun]
  refine ⟨?_, ?_, fun _ => ⟨room, ?_, hf.getRoomUserIds⟩⟩
  · show (m.userRooms.addTo 2 (zeroComId, room.roomId)).setAt 1 = _
    rw [HashMap.setAt_addTo, if_neg (by decide)]
    exact h.listed
  · rw [cnt_stored, if_pos rfl, hid]
  · show (m.rooms.insert (zeroComId, room.roomId) room).get? _ = _
    rw [HashMap.get?_insert, if_pos (by rw [hid])]

theorem exists_run_wrapping (n : Nat) :
    ∃ es s m, (sessionSystem openConfig twoAccounts).Run es (bothOnline s m .idle) ∧
      s.guiRoomManager.userRooms.setAt 1 = ∅ ∧ Wrapping m n := by
  induction n with
  | zero =>
    have hrun : (runOps twoAccounts (loginOps 1 "ada" ++ loginOps 2 "bob" ++
        [SessionOp.request 1 (.room (openRoomBy adaInfo))])).map (fun r => (r.2.tasks,
          decide (r.2.shared.guiRoomManager.userRooms.setAt 1 = ∅ ∧
            r.2.shared.roomManager.userRooms.setAt 1 = {(zeroComId, 1)} ∧
            r.2.shared.roomManager.cnt zeroComId = 1))) =
        some ([.cleaner .sleeping, .client adaClient .idle, .client bobClient .idle], true) := by
      decide +kernel
    obtain ⟨⟨es, s, tasks⟩, hr, hfacts⟩ := Option.map_eq_some_iff.mp hrun
    have htasks := congrArg Prod.fst hfacts
    subst htasks
    obtain ⟨hgui, hlisted, hcnt⟩ := of_decide_eq_true (congrArg Prod.snd hfacts)
    exact ⟨es, s, s.roomManager, run_of_runOps hr, hgui, hlisted, hcnt, fun h => absurd rfl h⟩
  | succ n ih =>
    obtain ⟨es, s, m, hrun, hgui, hw⟩ := ih
    have hstep : serve openConfig (bothOnline s m .idle)
        (.request 2 (.room (openRoomBy bobInfo))) =
        some (.roomCall 2 2 (openRoomBy bobInfo) ((openRoomBy bobInfo).call m).1,
          bothOnline s ((openRoomBy bobInfo).call m).2 .idle) := rfl
    exact ⟨_, s, _, hrun.snoc hstep, hgui, hw.succ⟩

theorem leaveRoom_stranger {room : Room}
    (hr : s.roomManager.rooms.get? (comId, roomId) = some room) (hu : u ∉ room.getRoomUserIds)
    (i random : Nat) : s.leaveRoom i u comId roomId random = (.silent, s) := by
  have hget : room.getMemberId u = .error .notFound := by
    unfold Room.getMemberId
    cases hm : room.memberOf u with
    | none => rfl
    | some mid =>
      obtain ⟨member, hmem, hmu⟩ := Room.memberOf_some hm
      exact absurd (Room.mem_getRoomUserIds.mpr ⟨mid, member, hmem, hmu⟩) hu
  unfold SharedData.leaveRoom
  simp only [hr, hget]

theorem serve_cleanStep (ch : Choice) (pc' : CleanPc)
    (hs : cleanStep ch { s with roomManager := m } 1 adaClient pc =
      some (.silent, { s with roomManager := m }, adaClient, pc')) :
    serve openConfig (bothOnline s m (.resetState pc)) (.next 1 ch) =
      some (.silent, bothOnline s m (.resetState pc')) := by
  have hn : nextStep openConfig ch { s with roomManager := m } 1
      (.client adaClient (.resetState pc)) =
      some (.silent, { s with roomManager := m }, .client adaClient (.resetState pc')) := by
    cases pc with
    | returned => cases hs
    | _ =>
      rw [nextStep, hs]
      · rfl
      · exact fun h => by cases h
  exact congrArg (Option.map fun r =>
    (r.1, (bothOnline s m (.resetState pc)).update 1 r.2.1 r.2.2)) hn

/-- **A key stays behind**: after 2^64 more rooms the id of the first one is that of another room,
    whose members do not include user 1; the leave is given up, and `user_rooms[1]` keeps the key. -/
theorem wrapped_counter_leaves_key :
    ∃ es p t, (sessionSystem openConfig twoAccounts).Run es p ∧ p.tasks[1]? = some t ∧
      t.cleaning = some (1, .returned) ∧ p.shared.roomManager.userRooms.setAt 1 ≠ ∅ := by
  obtain ⟨es, s, m, hrun, hgui, hw⟩ := exists_run_wrapping (2 ^ 64)
  obtain ⟨room, hr, hids⟩ := hw.last (by decide)
  rw [show UInt64.ofNat (2 ^ 64 + 1) = 1 by decide] at hr
  have hread : Orders [(zeroComId, 1)] ((m.getRoomsByUser 1).getD ∅) :=
    ⟨List.nodup_singleton _, hw.listed.symm⟩
  have hreadGui : Orders [] ((s.guiRoomManager.getRoomsByUser 1).getD ∅) :=
    ⟨List.nodup_nil, hgui.symm⟩
  have hleave : ({ s with roomManager := m } : SharedData).leaveRoom 1 adaClient.userId zeroComId 1
      (Choice.random {}) = (.silent, { s with roomManager := m }) :=
    leaveRoom_stranger hr (by rw [hids]; decide) 1 0
  -- `ResetState` of user 1, step by step
  have h₁ := hrun.snoc (show serve openConfig _ (.request 1 .resetState) =
    some (.silent, bothOnline s m (.resetState .start)) from rfl)
  have h₂ := h₁.snoc (serve_cleanStep { rooms := [(zeroComId, 1)] } (.leaving [(zeroComId, 1)])
    (if_pos hread))
  have h₃ := h₂.snoc (serve_cleanStep {} (.leaving []) (by rw [cleanStep, hleave]))
  have h₄ := h₃.snoc (serve_cleanStep {} .left rfl)
  have h₅ := h₄.snoc (serve_cleanStep {} (.leavingGui []) (if_pos hreadGui))
  have h₆ := h₅.snoc (serve_cleanStep {} .leftGui rfl)
  have h₇ := h₆.snoc (serve_cleanStep {} .psnDone rfl)
  have h₈ := h₇.snoc (serve_cleanStep {} .returned rfl)
  refine ⟨_, _, _, h₈, rfl, rfl, ?_⟩
  show m.userRooms.setAt 1 ≠ ∅
  rw [hw.listed]
  exact Finset.singleton_ne_empty _

end Rpcn.Session
