/-
  File:      Rpcn/Client/Presence.lean
  Subject:   PRESENCES (set_presence, client.rs): how long what is stored can be.

  The first request of a client stores what it was sent. A later one that changes something cuts the
  three strings with `String::truncate`, at 127, 191 and 63 bytes, and the data at 128. So the bounds
  hold for later requests only, and a cut inside of a character is a panic, with a part of the
  presence already replaced.
-/
import Rpcn.Client.Handler
import Rpcn.Lib.Utf8

namespace Rpcn

open Lib Session

/-! ## 1. The handler -/

structure SetPresenceRequest where
  title : String
  status : String
  comment : String
  data : List UInt8
  deriving DecidableEq

namespace ClientSharedPresence

def new (communicationId : ComId) (title status comment : String) (data : List UInt8) :
    ClientSharedPresence :=
  ⟨communicationId, title, status, comment, data⟩

/-- `ClientSharedPresence::dump`: what it appends. -/
def dump (p : ClientSharedPresence) : List UInt8 :=
  p.communicationId.toList ++ (utf8 p.title ++ [0]) ++ (utf8 p.status ++ [0]) ++
    (utf8 p.comment ++ [0]) ++ leBytes 4 (p.data.length % 2 ^ 32) ++ p.data

end ClientSharedPresence

def modifyPresence (f : ClientSharedPresence → ClientSharedPresence) : ClientCall Unit :=
  Call.modify fun s => { s with presence := s.presence.map f }

def truncated (str : String) (newLen : Nat) : ClientCall String :=
  Call.unwrap (truncate str newLen) .notCharBoundary

/-- The locked part of `set_presence`: the presence that friends are notified of. A panic leaves what
    was assigned before it. -/
def storePresence (comId : ComId) (prReq : SetPresenceRequest) :
    ClientCall (Option ClientSharedPresence) := do
  let s ← Call.read
  match s.presence with
  | some presenceInfo =>
    if presenceInfo.communicationId ≠ comId ∨ presenceInfo.title ≠ prReq.title ∨
        prReq.status ≠ presenceInfo.status ∨ prReq.comment ≠ presenceInfo.comment ∨
        prReq.data ≠ presenceInfo.data then do
      modifyPresence fun p => { p with communicationId := comId }
      Call.modify fun s => { s with gameTracker := s.gameTracker.addGamenameHint comId prReq.title }
      modifyPresence fun p => { p with title := prReq.title }
      let title ← truncated prReq.title (128 - 1)
      modifyPresence fun p => { p with title := title }
      modifyPresence fun p => { p with status := prReq.status }
      let status ← truncated prReq.status (192 - 1)
      modifyPresence fun p => { p with status := status }
      modifyPresence fun p => { p with comment := prReq.comment }
      let comment ← truncated prReq.comment (64 - 1)
      modifyPresence fun p => { p with comment := comment }
      modifyPresence fun p => { p with data := prReq.data }
      modifyPresence fun p => { p with data := p.data.take 128 }
      let s ← Call.read
      pure s.presence
    else pure none
  | none => do
    let newPresence := ClientSharedPresence.new comId prReq.title prReq.status prReq.comment prReq.data
    Call.modify fun s => { s with presence := some newPresence }
    pure (some newPresence)

/-- `set_presence`: the notification it sends to the client's friends, if any. -/
def setPresence (decode : List UInt8 → Option SetPresenceRequest) (cfg : Config) :
    ClientCall (Option (List UInt8)) := do
  let (comId, prReq) ← getComAndPb decode cfg
  let notify ← storePresence comId prReq
  let s ← Call.read
  match notify with
  | some presence => pure (some (utf8 s.client.clientInfo.npid ++ [0] ++ presence.dump))
  | none => pure none

variable {α : Type}

theorem modifyPresence_bind (f : ClientSharedPresence → ClientSharedPresence)
    (g : Unit → ClientCall α) (s : ClientState) :
    (modifyPresence f >>= g) s = g () { s with presence := s.presence.map f } := rfl

variable {str : String} {n : Nat}

theorem truncated_bind_some {t : String} (h : truncate str n = some t) (g : String → ClientCall α)
    (s : ClientState) : (truncated str n >>= g) s = g t s := by
  rw [truncated, h]
  rfl

theorem truncated_bind_none (h : truncate str n = none) (g : String → ClientCall α)
    (s : ClientState) : (truncated str n >>= g) s = (.panic .notCharBoundary, s) := by
  rw [truncated, h]
  rfl

/-! ## 2. One request -/

structure ClientSharedPresence.Bounded (p : ClientSharedPresence) : Prop where
  title : (utf8 p.title).length ≤ 127
  status : (utf8 p.status).length ≤ 191
  comment : (utf8 p.comment).length ≤ 63
  data : p.data.length ≤ 128

structure ClientSharedPresence.BeginsOf (p : ClientSharedPresence) (r : SetPresenceRequest) : Prop where
  title : p.title.toList <+: r.title.toList
  status : p.status.toList <+: r.status.toList
  comment : p.comment.toList <+: r.comment.toList
  data : p.data <+: r.data

namespace SetPresenceRequest

structure Short (r : SetPresenceRequest) : Prop where
  title : (utf8 r.title).length ≤ 127
  status : (utf8 r.status).length ≤ 191
  comment : (utf8 r.comment).length ≤ 63
  data : r.data.length ≤ 128

structure Cuttable (r : SetPresenceRequest) : Prop where
  title : (utf8 r.title).length ≤ 127 ∨ IsCharBoundary r.title 127
  status : (utf8 r.status).length ≤ 191 ∨ IsCharBoundary r.status 191
  comment : (utf8 r.comment).length ≤ 63 ∨ IsCharBoundary r.comment 63

variable {r : SetPresenceRequest}

theorem Short.cuttable (h : r.Short) : r.Cuttable :=
  ⟨Or.inl h.title, Or.inl h.status, Or.inl h.comment⟩

def presence (r : SetPresenceRequest) (comId : ComId) : ClientSharedPresence :=
  ⟨comId, r.title, r.status, r.comment, r.data⟩

theorem bounded_presence {comId : ComId} : (r.presence comId).Bounded ↔ r.Short :=
  ⟨fun h => ⟨h.title, h.status, h.comment, h.data⟩, fun h => ⟨h.title, h.status, h.comment, h.data⟩⟩

theorem beginsOf_presence (r : SetPresenceRequest) (comId : ComId) :
    (r.presence comId).BeginsOf r :=
  ⟨List.prefix_rfl, List.prefix_rfl, List.prefix_rfl, List.prefix_rfl⟩

end SetPresenceRequest

variable {p : ClientSharedPresence}

section Store

variable {comId : ComId} {r : SetPresenceRequest} {s : ClientState}

theorem storePresence_first (comId : ComId) (r : SetPresenceRequest) (h : s.presence = none) :
    storePresence comId r s =
      (.ok (some (r.presence comId)), { s with presence := some (r.presence comId) }) := by
  unfold storePresence
  rw [Call.read_bind_run, h]
  rfl

theorem storePresence_same (h : s.presence = some (r.presence comId)) :
    storePresence comId r s = (.ok none, s) := by
  unfold storePresence
  rw [Call.read_bind_run, h]
  simp [SetPresenceRequest.presence]

theorem storePresence_later (h : s.presence = some p) (hne : p ≠ r.presence comId) :
    (∃ p' s', storePresence comId r s = (.ok (some p'), s') ∧ s'.presence = some p' ∧ p'.Bounded ∧
      p'.BeginsOf r) ∧ r.Cuttable ∨
    (∃ s', storePresence comId r s = (.panic .notCharBoundary, s')) ∧ ¬ r.Cuttable := by
  have hchanged : p.communicationId ≠ comId ∨ p.title ≠ r.title ∨ r.status ≠ p.status ∨
      r.comment ≠ p.comment ∨ r.data ≠ p.data := by
    by_contra hcon
    simp only [not_or, not_not] at hcon
    obtain ⟨h₁, h₂, h₃, h₄, h₅⟩ := hcon
    refine hne ?_
    cases p
    simp only [SetPresenceRequest.presence] at *
    rw [h₁, h₂, h₃, h₄, h₅]
  unfold storePresence
  rw [Call.read_bind_run, h]
  dsimp only
  rw [if_pos hchanged]
  simp only [modifyPresence_bind, Call.modify_bind_run]
  rcases truncate_spec r.title 127 with ⟨⟨title, ht, htpre, htlen⟩, hcut⟩ | ⟨ht, hlt, hcut⟩
  · rw [truncated_bind_some ht]
    simp only [modifyPresence_bind]
    rcases truncate_spec r.status 191 with ⟨⟨status, hs, hspre, hslen⟩, hcut'⟩ | ⟨hs, hlt, hcut'⟩
    · rw [truncated_bind_some hs]
      simp only [modifyPresence_bind]
      rcases truncate_spec r.comment 63 with
        ⟨⟨comment, hc, hcpre, hclen⟩, hcut''⟩ | ⟨hc, hlt, hcut''⟩
      · rw [truncated_bind_some hc]
        let p' : ClientSharedPresence := ⟨comId, title, status, comment, r.data.take 128⟩
        refine Or.inl ⟨⟨p', { s with presence := some p', gameTracker :=
          s.gameTracker.addGamenameHint comId r.title }, ?_, rfl, ?_, ?_⟩, hcut, hcut', hcut''⟩
        · simp only [modifyPresence_bind, Call.read_bind_run, h, Option.map_some, Call.pure_run]
          rfl
        · exact ⟨htlen, hslen, hclen, List.length_take_le _ _⟩
        · exact ⟨htpre, hspre, hcpre, List.take_prefix _ _⟩
      · rw [truncated_bind_none hc]
        exact Or.inr ⟨⟨_, rfl⟩, fun h => h.comment.elim (by omega) hcut''⟩
    · rw [truncated_bind_none hs]
      exact Or.inr ⟨⟨_, rfl⟩, fun h => h.status.elim (by omega) hcut'⟩
  · rw [truncated_bind_none ht]
    exact Or.inr ⟨⟨_, rfl⟩, fun h => h.title.elim (by omega) hcut⟩

end Store

/-! ## 3. Sequences of packets -/

section Packets

variable (decode : List UInt8 → Option SetPresenceRequest) (cfg : Config)

/-- What `set_presence` is to do with a packet: no panic, and the presence is within the bounds and
    begins what was sent. -/
def PresenceSafe (s : ClientState) (packet : List UInt8) : Prop :=
  (setPresence decode cfg (s.receive packet)).1.isPanic = false ∧
  ∀ comId r, fields decode packet = some (comId, r) →
    ∃ p, (setPresence decode cfg (s.receive packet)).2.presence = some p ∧ p.Bounded ∧ p.BeginsOf r

def afterPresence (s : ClientState) (packet : List UInt8) : ClientState :=
  (setPresence decode cfg (s.receive packet)).2

variable {decode} {s : ClientState} {packet : List UInt8} {comId : ComId}
  {r : SetPresenceRequest}

theorem setPresence_malformed (h : fields decode packet = none) :
    PresenceSafe decode cfg s packet ∧ (afterPresence decode cfg s packet).presence = s.presence := by
  obtain ⟨comId, data, hrun⟩ := getComAndPb_run decode cfg packet s
  rw [h] at hrun
  have hset : setPresence decode cfg (s.receive packet) =
      (.err .malformed, (s.playing (cfg.getServerRedirection comId)).reading data) :=
    Call.bind_err hrun
  refine ⟨⟨?_, ?_⟩, ?_⟩
  · rw [hset]
    rfl
  · intro comId r hf
    rw [h] at hf
    cases hf
  · rw [afterPresence, hset]
    exact ClientState.presence_playing _ s

theorem setPresence_accepted (h : fields decode packet = some (comId, r)) :
    ∃ s₁ : ClientState, s₁.presence = s.presence ∧
      (setPresence decode cfg (s.receive packet)).1.isPanic =
        (storePresence (cfg.getServerRedirection comId) r s₁).1.isPanic ∧
      (setPresence decode cfg (s.receive packet)).2 =
        (storePresence (cfg.getServerRedirection comId) r s₁).2 := by
  obtain ⟨comId', data, hrun⟩ := getComAndPb_run decode cfg packet s
  rw [h] at hrun
  refine ⟨(s.playing (cfg.getServerRedirection comId')).reading data,
    ClientState.presence_playing _ s, ?_⟩
  unfold setPresence
  rw [Call.bind_ok hrun]
  dsimp only
  cases hstore : storePresence (cfg.getServerRedirection comId) r
      ((s.playing (cfg.getServerRedirection comId')).reading data) with
  | mk outcome s' =>
    cases outcome with
    | ok notify =>
      rw [Call.bind_ok hstore, Call.read_bind_run]
      cases notify with
      | none => exact ⟨rfl, rfl⟩
      | some p => exact ⟨rfl, rfl⟩
    | err e =>
      rw [Call.bind_err hstore]
      exact ⟨rfl, rfl⟩
    | panic p =>
      rw [Call.bind_panic hstore]
      exact ⟨rfl, rfl⟩

theorem presenceSafe_first (hs : s.presence = none) (h : fields decode packet = some (comId, r)) :
    (PresenceSafe decode cfg s packet ↔ r.Short) ∧
      (afterPresence decode cfg s packet).presence =
        some (r.presence (cfg.getServerRedirection comId)) := by
  obtain ⟨s₁, hs₁, hpanic, hstate⟩ := setPresence_accepted cfg (s := s) h
  have hrun := storePresence_first (cfg.getServerRedirection comId) r (hs₁.trans hs)
  rw [hrun] at hpanic hstate
  refine ⟨⟨?_, ?_⟩, ?_⟩
  · rintro ⟨-, hall⟩
    obtain ⟨p, hp, hbounded, -⟩ := hall comId r h
    rw [hstate] at hp
    cases hp
    exact SetPresenceRequest.bounded_presence.mp hbounded
  · intro hshort
    refine ⟨hpanic, fun comId' r' hf => ?_⟩
    rw [h] at hf
    cases hf
    exact ⟨_, by rw [hstate], SetPresenceRequest.bounded_presence.mpr hshort, r.beginsOf_presence _⟩
  · rw [afterPresence, hstate]

theorem presenceSafe_later (hs : s.presence = some p) (hp : p.Bounded)
    (h : fields decode packet = some (comId, r)) :
    PresenceSafe decode cfg s packet ↔ r.Cuttable := by
  obtain ⟨s₁, hs₁, hpanic, hstate⟩ := setPresence_accepted cfg (s := s) h
  rw [hs] at hs₁
  by_cases hsame : p = r.presence (cfg.getServerRedirection comId)
  · subst hsame
    rw [storePresence_same hs₁] at hpanic hstate
    refine iff_of_true ⟨hpanic, fun comId' r' hf => ?_⟩
      (SetPresenceRequest.bounded_presence.mp hp).cuttable
    rw [h] at hf
    cases hf
    exact ⟨_, by rw [hstate, hs₁], hp, r.beginsOf_presence _⟩
  · rcases storePresence_later hs₁ hsame with
      ⟨⟨p', s', hrun, hp', hbounded, hbegins⟩, hcut⟩ | ⟨⟨s', hrun⟩, hcut⟩
    · rw [hrun] at hpanic hstate
      refine iff_of_true ⟨hpanic, fun comId' r' hf => ?_⟩ hcut
      rw [h] at hf
      cases hf
      exact ⟨p', by rw [hstate, hp'], hbounded, hbegins⟩
    · rw [hrun] at hpanic
      refine iff_of_false (fun hsafe => ?_) hcut
      rw [hsafe.1] at hpanic
      cases hpanic

def requests (decode : List UInt8 → Option SetPresenceRequest) (packets : List (List UInt8)) :
    List SetPresenceRequest :=
  packets.filterMap fun packet => (fields decode packet).map Prod.snd

theorem presence_along_later (cfg : Config) : ∀ (packets : List (List UInt8)) {s : ClientState}
    {p : ClientSharedPresence}, s.presence = some p → p.Bounded →
    (Along (afterPresence decode cfg) (PresenceSafe decode cfg) s packets ↔
      ∀ r ∈ requests decode packets, r.Cuttable)
  | [], s, _, _, _ => iff_of_true (along_nil _ _ s) fun _ hr => absurd hr List.not_mem_nil
  | packet :: packets, s, p, hs, hp => by
      rw [along_cons, requests, List.filterMap_cons]
      cases hf : fields decode packet with
      | none =>
        obtain ⟨hsafe, hkept⟩ := setPresence_malformed cfg (s := s) hf
        exact (and_iff_right hsafe).trans (presence_along_later cfg packets (hkept.trans hs) hp)
      | some f =>
        obtain ⟨comId, r⟩ := f
        simp only [Option.map_some, List.forall_mem_cons]
        constructor
        · rintro ⟨hsafe, hrest⟩
          obtain ⟨p', hs', hp', -⟩ := hsafe.2 comId r hf
          exact ⟨(presenceSafe_later cfg hs hp hf).mp hsafe,
            (presence_along_later cfg packets hs' hp').mp hrest⟩
        · rintro ⟨hcut, hrest⟩
          have hsafe := (presenceSafe_later cfg hs hp hf).mpr hcut
          obtain ⟨p', hs', hp', -⟩ := hsafe.2 comId r hf
          exact ⟨hsafe, (presence_along_later cfg packets hs' hp').mpr hrest⟩

def Admissible : List SetPresenceRequest → Prop
  | [] => True
  | first :: later => first.Short ∧ ∀ r ∈ later, r.Cuttable

end Packets

/-- **Presences stay within their bounds**, and no request panics, exactly if the first request is
    within them already and no later one is cut inside of a character. For every way to decode
    messages, every redirection, and every sequence of packets of a client that has no presence
    yet. -/
theorem presence_bounded (decode : List UInt8 → Option SetPresenceRequest) (cfg : Config)
    (packets : List (List UInt8)) (s : ClientState) (hs : s.presence = none) :
    Along (afterPresence decode cfg) (PresenceSafe decode cfg) s packets ↔
      Admissible (requests decode packets) := by
  induction packets generalizing s with
  | nil => exact iff_of_true (along_nil _ _ s) trivial
  | cons packet packets ih =>
    rw [along_cons, requests, List.filterMap_cons]
    cases hf : fields decode packet with
    | none =>
      obtain ⟨hsafe, hkept⟩ := setPresence_malformed cfg (s := s) hf
      exact (and_iff_right hsafe).trans (ih _ (hkept.trans hs))
    | some f =>
      obtain ⟨comId, r⟩ := f
      obtain ⟨hiff, hs'⟩ := presenceSafe_first cfg hs hf
      simp only [Option.map_some, Admissible]
      refine (and_congr_left' hiff).trans (and_congr_right fun hshort => ?_)
      exact presence_along_later cfg packets hs' (SetPresenceRequest.bounded_presence.mpr hshort)

def hangulTitle (bytes : List UInt8) : Option SetPresenceRequest :=
  some ⟨.ofList (List.replicate bytes.length (Char.ofNat 0xAC00)), "", "", []⟩

def presencePacket (n : Nat) : List UInt8 :=
  [0x4E, 0x50, 0x57, 0x52, 0x30, 0x30, 0x30, 0x30, 0x31, 0x5F, 0x30, 0x30] ++
    (leBytes 4 n ++ List.replicate n 0)

theorem presence_bounded_short :
    Along (afterPresence hangulTitle plainConfig) (PresenceSafe hangulTitle plainConfig) freshClient
      [presencePacket 5, presencePacket 42] := by
  refine (presence_bounded hangulTitle plainConfig _ freshClient rfl).mpr ?_
  have hfive : (utf8 (.ofList (List.replicate 5 (Char.ofNat 0xAC00)))).length = 15 := by
    decide +kernel
  have hmany : (utf8 (.ofList (List.replicate 42 (Char.ofNat 0xAC00)))).length = 126 := by
    decide +kernel
  have hreqs : requests hangulTitle [presencePacket 5, presencePacket 42] =
      [⟨.ofList (List.replicate 5 (Char.ofNat 0xAC00)), "", "", []⟩,
        ⟨.ofList (List.replicate 42 (Char.ofNat 0xAC00)), "", "", []⟩] := by
    decide +kernel
  rw [hreqs]
  refine ⟨⟨by rw [hfive]; decide, by decide, by decide, by decide⟩, ?_⟩
  intro r hr
  rw [List.mem_singleton] at hr
  subst hr
  exact ⟨Or.inl (by rw [hmany]; decide), Or.inl (by decide), Or.inl (by decide)⟩

/-- **A title of 43 syllables** is 129 bytes long: the first request stores all of them, and a later
    one cuts the last syllable and panics. -/
theorem presence_cut_panics :
    ((afterPresence hangulTitle plainConfig freshClient (presencePacket 43)).presence.map
      fun p => (utf8 p.title).length) = some 129 ∧
    (setPresence hangulTitle plainConfig
      ((afterPresence hangulTitle plainConfig freshClient (presencePacket 1)).receive
        (presencePacket 43))).1 = .panic .notCharBoundary := by
  constructor
  · decide +kernel
  · decide +kernel

end Rpcn
