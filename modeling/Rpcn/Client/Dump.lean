/-
  File:      Rpcn/Client/Dump.lean
  Subject:   PRESENCES ON THE WIRE (client.rs, login): reading back what `dump` wrote.

  A presence is twelve bytes of com id, three texts with a zero after each, and the data with its
  length. The reply to a login has one such record for each friend, right behind the friend's name
  and status. Nothing checks the texts for zeros: one of them ends its text early, and the rest of it
  is read as the next field.
-/
import Rpcn.Client.Presence

namespace Rpcn

open Lib Session

/-! ## 1. Writing -/

/-- `ClientSharedPresence::dump_empty`: what it appends. -/
def dumpEmpty : List UInt8 :=
  [0, 0, 0, 0, 0, 0, 0, 0, 0, 0x5F, 0x30, 0x30] ++ [0] ++ [0] ++ [0] ++ leBytes 4 0

/-- The record of one friend in `dump_usernames_and_status`. For a user in `client_infos` there is
    the presence, if any. -/
def dumpFriend (clientInfos : UserId → Option (Option ClientSharedPresence))
    (friend : UserId × String) : List UInt8 :=
  utf8 friend.2 ++ [0] ++
    match clientInfos friend.1 with
    | some (some presenceInfo) => 1 :: presenceInfo.dump
    | some none => 1 :: dumpEmpty
    | none => 0 :: dumpEmpty

/-- `dump_usernames_and_status`: what it appends to the reply. -/
def dumpUsernamesAndStatus (clientInfos : UserId → Option (Option ClientSharedPresence))
    (friends : List (UserId × String)) : List UInt8 :=
  leBytes 4 (friends.length % 2 ^ 32) ++ friends.flatMap (dumpFriend clientInfos)

/-! ## 2. Reading -/

structure PresenceRecord where
  comId : List UInt8
  title : List UInt8
  status : List UInt8
  comment : List UInt8
  data : List UInt8
  deriving DecidableEq

structure FriendRecord where
  username : List UInt8
  status : List UInt8
  presence : PresenceRecord
  deriving DecidableEq

/-- **A presence**: twelve bytes, three texts that end with a zero, and a `u32` length, the lowest
    byte first, with as many bytes. -/
def readPresence (input : List UInt8) : Option (PresenceRecord × List UInt8) := do
  let (comId, input) ← readBytes 12 input
  let (title, input) ← readNul input
  let (status, input) ← readNul input
  let (comment, input) ← readNul input
  let (len, input) ← readBytes 4 input
  let (data, input) ← readBytes (ofLe len) input
  some (⟨comId, title, status, comment, data⟩, input)

/-- A name that ends with a zero, one byte of status, and a presence. -/
def readFriend (input : List UInt8) : Option (FriendRecord × List UInt8) := do
  let (username, input) ← readNul input
  let (status, input) ← readBytes 1 input
  let (presence, input) ← readPresence input
  some (⟨username, status, presence⟩, input)

def readFriends : Nat → List UInt8 → Option (List FriendRecord × List UInt8)
  | 0, input => some ([], input)
  | n + 1, input => do
    let (friend, input) ← readFriend input
    let (friends, input) ← readFriends n input
    some (friend :: friends, input)

/-- The friends of a login reply: their number, and so many records. -/
def readUsernamesAndStatus (input : List UInt8) : Option (List FriendRecord × List UInt8) := do
  let (len, input) ← readBytes 4 input
  readFriends (ofLe len) input

/-! ## 3. What is written -/

def NulFree (str : String) : Prop := ∀ c ∈ str.toList, c.toNat ≠ 0

instance (str : String) : Decidable (NulFree str) :=
  List.decidableBAll (fun c : Char => c.toNat ≠ 0) str.toList

theorem nulFree_iff (str : String) : NulFree str ↔ 0 ∉ utf8 str := by
  rw [zero_mem_utf8, NulFree, not_exists]
  simp only [not_and, ne_eq]

namespace ClientSharedPresence

def record (p : ClientSharedPresence) : PresenceRecord :=
  ⟨p.communicationId.toList, utf8 p.title, utf8 p.status, utf8 p.comment, p.data⟩

structure Framed (p : ClientSharedPresence) : Prop where
  title : NulFree p.title
  status : NulFree p.status
  comment : NulFree p.comment
  data : p.data.length < 2 ^ 32

end ClientSharedPresence

theorem ofLe_wrapped_eq_iff (n : Nat) : ofLe (leBytes 4 (n % 2 ^ 32)) = n ↔ n < 2 ^ 32 := by
  rw [ofLe_leBytes 4 _ (by omega)]
  omega

theorem readPresence_dump (p : ClientSharedPresence) {rest r : List UInt8} :
    readPresence (p.dump ++ rest) = some (p.record, r) ↔ p.Framed ∧ r = rest := by
  have hid : readBytes 12 (p.dump ++ rest) = some (p.communicationId.toList,
      utf8 p.title ++ 0 :: (utf8 p.status ++ 0 :: (utf8 p.comment ++ 0 ::
        (leBytes 4 (p.data.length % 2 ^ 32) ++ (p.data ++ rest))))) := by
    have h := readBytes_append p.communicationId.toList
      (utf8 p.title ++ 0 :: (utf8 p.status ++ 0 :: (utf8 p.comment ++ 0 ::
        (leBytes 4 (p.data.length % 2 ^ 32) ++ (p.data ++ rest)))))
    rw [Vector.length_toList] at h
    simpa only [ClientSharedPresence.dump, List.append_assoc, List.cons_append, List.nil_append]
      using h
  have hlen : ∀ tail, readBytes 4 (leBytes 4 (p.data.length % 2 ^ 32) ++ tail) =
      some (leBytes 4 (p.data.length % 2 ^ 32), tail) := by
    intro tail
    have h := readBytes_append (leBytes 4 (p.data.length % 2 ^ 32)) tail
    rwa [length_leBytes] at h
  unfold readPresence
  simp only [hid, Option.bind_eq_bind, Option.bind_some]
  constructor
  · intro h
    obtain ⟨⟨title, in₁⟩, h₁, h⟩ := Option.bind_eq_some_iff.mp h
    obtain ⟨⟨status, in₂⟩, h₂, h⟩ := Option.bind_eq_some_iff.mp h
    obtain ⟨⟨comment, in₃⟩, h₃, h⟩ := Option.bind_eq_some_iff.mp h
    obtain ⟨⟨len, in₄⟩, h₄, h⟩ := Option.bind_eq_some_iff.mp h
    obtain ⟨⟨data, in₅⟩, h₅, h⟩ := Option.bind_eq_some_iff.mp h
    cases h
    -- each field that is read as written tells where the next one starts
    obtain ⟨htitle, rfl⟩ := readNul_eq_iff.mp h₁
    obtain ⟨hstatus, rfl⟩ := readNul_eq_iff.mp h₂
    obtain ⟨hcomment, rfl⟩ := readNul_eq_iff.mp h₃
    rw [hlen] at h₄
    cases h₄
    obtain ⟨hdata, rfl⟩ := readBytes_eq_iff.mp h₅
    exact ⟨⟨(nulFree_iff _).mpr htitle, (nulFree_iff _).mpr hstatus, (nulFree_iff _).mpr hcomment,
      (ofLe_wrapped_eq_iff _).mp hdata⟩, rfl⟩
  · rintro ⟨⟨htitle, hstatus, hcomment, hdata⟩, rfl⟩
    simp only [readNul_append _ _ ((nulFree_iff _).mp htitle),
      readNul_append _ _ ((nulFree_iff _).mp hstatus),
      readNul_append _ _ ((nulFree_iff _).mp hcomment), hlen, (ofLe_wrapped_eq_iff _).mpr hdata,
      readBytes_append, Option.bind_some]
    rfl

/-! ## 4. The list of friends -/

section Friends

variable (clientInfos : UserId → Option (Option ClientSharedPresence))

/-- The presence in a friend's record: an empty one where there is none. -/
def shownPresence (userId : UserId) : ClientSharedPresence :=
  ((clientInfos userId).join).getD
    ⟨#v[0, 0, 0, 0, 0, 0, 0, 0, 0, 0x5F, 0x30, 0x30], "", "", "", []⟩

def friendRecord (friend : UserId × String) : FriendRecord :=
  ⟨utf8 friend.2, [if (clientInfos friend.1).isSome then 1 else 0],
    (shownPresence clientInfos friend.1).record⟩

theorem dumpFriend_eq (friend : UserId × String) :
    dumpFriend clientInfos friend = utf8 friend.2 ++ 0 ::
      ((friendRecord clientInfos friend).status ++ (shownPresence clientInfos friend.1).dump) := by
  unfold dumpFriend friendRecord shownPresence
  rw [List.append_assoc]
  cases clientInfos friend.1 with
  | none => rfl
  | some presence =>
    cases presence with
    | none => rfl
    | some p => rfl

/-- The name and the presence of a friend can be told from their bytes. -/
def FriendFramed (friend : UserId × String) : Prop :=
  NulFree friend.2 ∧ (shownPresence clientInfos friend.1).Framed

theorem readFriend_dump (friend : UserId × String) {rest r : List UInt8} :
    readFriend (dumpFriend clientInfos friend ++ rest) = some (friendRecord clientInfos friend, r) ↔
      FriendFramed clientInfos friend ∧ r = rest := by
  have hstatus : ∀ tail, readBytes 1 ((friendRecord clientInfos friend).status ++ tail) =
      some ((friendRecord clientInfos friend).status, tail) := by
    intro tail
    exact readBytes_append (friendRecord clientInfos friend).status tail
  unfold readFriend
  rw [dumpFriend_eq, List.append_assoc, List.cons_append, List.append_assoc]
  simp only [Option.bind_eq_bind]
  constructor
  · intro h
    obtain ⟨⟨username, in₁⟩, h₁, h⟩ := Option.bind_eq_some_iff.mp h
    obtain ⟨⟨status, in₂⟩, h₂, h⟩ := Option.bind_eq_some_iff.mp h
    obtain ⟨⟨presence, in₃⟩, h₃, h⟩ := Option.bind_eq_some_iff.mp h
    cases h
    obtain ⟨hname, rfl⟩ := readNul_eq_iff.mp h₁
    dsimp only at h₂ h₃
    rw [hstatus] at h₂
    cases h₂
    obtain ⟨hframed, rfl⟩ := (readPresence_dump _).mp h₃
    exact ⟨⟨(nulFree_iff _).mpr hname, hframed⟩, rfl⟩
  · rintro ⟨⟨hname, hframed⟩, rfl⟩
    simp only [readNul_append _ _ ((nulFree_iff _).mp hname), hstatus,
      (readPresence_dump _).mpr ⟨hframed, rfl⟩, Option.bind_some]
    rfl

theorem length_readFriends : ∀ (n : Nat) {input rest : List UInt8} {friends : List FriendRecord},
    readFriends n input = some (friends, rest) → friends.length = n
  | 0, _, _, _, h => by
      cases h
      rfl
  | n + 1, input, rest, friends, h => by
      rw [readFriends] at h
      simp only [Option.bind_eq_bind] at h
      obtain ⟨⟨friend, in₁⟩, -, h⟩ := Option.bind_eq_some_iff.mp h
      obtain ⟨⟨friends', in₂⟩, hread, h⟩ := Option.bind_eq_some_iff.mp h
      cases h
      rw [List.length_cons, length_readFriends n hread]

theorem readFriends_dump : ∀ (friends : List (UserId × String)) {rest r : List UInt8},
    readFriends friends.length (friends.flatMap (dumpFriend clientInfos) ++ rest) =
        some (friends.map (friendRecord clientInfos), r) ↔
      (∀ friend ∈ friends, FriendFramed clientInfos friend) ∧ r = rest
  | [], rest, r => by
      rw [List.length_nil, readFriends]
      simp [eq_comm]
  | friend :: friends, rest, r => by
      rw [List.length_cons, readFriends, List.flatMap_cons, List.append_assoc, List.map_cons,
        List.forall_mem_cons]
      simp only [Option.bind_eq_bind]
      constructor
      · intro h
        obtain ⟨⟨record, in₁⟩, h₁, h⟩ := Option.bind_eq_some_iff.mp h
        obtain ⟨⟨records, in₂⟩, h₂, h⟩ := Option.bind_eq_some_iff.mp h
        cases h
        obtain ⟨hframed, rfl⟩ := (readFriend_dump clientInfos friend).mp h₁
        obtain ⟨hall, rfl⟩ := (readFriends_dump friends).mp h₂
        exact ⟨⟨hframed, hall⟩, rfl⟩
      · rintro ⟨⟨hframed, hall⟩, rfl⟩
        simp only [(readFriend_dump clientInfos friend).mpr ⟨hframed, rfl⟩,
          (readFriends_dump friends).mpr ⟨hall, rfl⟩, Option.bind_some]

end Friends

/-- **Presences can be read back** exactly if they are framed. For every presence and all bytes after
    it: a reader has the stored fields, and stops where the record ends, exactly if no text has a
    zero in it and the length fits. For every list of friends in a login reply: their records are
    found exactly if all of them are such, the names as well, and their number fits. -/
theorem presence_dump_parses (p : ClientSharedPresence) (rest : List UInt8) :
    (readPresence (p.dump ++ rest) = some (p.record, rest) ↔
      (NulFree p.title ∧ NulFree p.status ∧ NulFree p.comment) ∧ p.data.length < 2 ^ 32) ∧
    ∀ (clientInfos : UserId → Option (Option ClientSharedPresence))
      (friends : List (UserId × String)),
      readUsernamesAndStatus (dumpUsernamesAndStatus clientInfos friends ++ rest) =
          some (friends.map (friendRecord clientInfos), rest) ↔
        friends.length < 2 ^ 32 ∧
          ∀ friend ∈ friends, NulFree friend.2 ∧ (shownPresence clientInfos friend.1).Framed := by
  refine ⟨?_, ?_⟩
  · rw [readPresence_dump]
    constructor
    · rintro ⟨h, -⟩
      exact ⟨⟨h.title, h.status, h.comment⟩, h.data⟩
    · rintro ⟨⟨htitle, hstatus, hcomment⟩, hdata⟩
      exact ⟨⟨htitle, hstatus, hcomment, hdata⟩, rfl⟩
  · intro clientInfos friends
    have hcount := readBytes_append (leBytes 4 (friends.length % 2 ^ 32))
      (friends.flatMap (dumpFriend clientInfos) ++ rest)
    rw [length_leBytes] at hcount
    unfold readUsernamesAndStatus
    rw [dumpUsernamesAndStatus, List.append_assoc]
    simp only [hcount, Option.bind_eq_bind, Option.bind_some]
    by_cases hlen : friends.length < 2 ^ 32
    · rw [(ofLe_wrapped_eq_iff _).mpr hlen, readFriends_dump, and_iff_left rfl, and_iff_right hlen]
      rfl
    · refine iff_of_false (fun h => hlen ?_) fun h => hlen h.1
      have hread := length_readFriends _ h
      rw [List.length_map] at hread
      exact (ofLe_wrapped_eq_iff _).mp hread.symm

theorem presence_dump_parses_plain :
    readPresence ((ClientSharedPresence.mk (Vector.replicate 12 0x41) "Lobby" "" "" [1, 0]).dump ++
        [7]) =
      some ((ClientSharedPresence.mk (Vector.replicate 12 0x41) "Lobby" "" "" [1, 0]).record, [7]) :=
  (presence_dump_parses _ [7]).1.mpr
    ⟨⟨by decide +kernel, by decide +kernel, by decide +kernel⟩, by decide⟩

def zeroTitle (_ : List UInt8) : Option SetPresenceRequest :=
  some ⟨.ofList ['a', Char.ofNat 0, 'b'], "", "", []⟩

/-- **A title with a zero hides the next friend**: the handler stores it, a reader finds the title
    `a` and the status `b`, and after it a friend without a name in the place of `bob`. -/
theorem presence_dump_misread :
    ∃ p, (afterPresence zeroTitle plainConfig freshClient (presencePacket 0)).presence = some p ∧
      ((readPresence p.dump).map fun r => (r.1.title, r.1.status, r.2)) =
        some (utf8 "a", utf8 "b", [0]) ∧
      ((readUsernamesAndStatus (dumpUsernamesAndStatus
          (fun userId => some (if userId = 1 then some p else none)) [(1, "ann"), (2, "bob")])).map
        fun r => r.1.map FriendRecord.username) = some [utf8 "ann", utf8 ""] :=
  ⟨⟨#v[0x4E, 0x50, 0x57, 0x52, 0x30, 0x30, 0x30, 0x30, 0x31, 0x5F, 0x30, 0x30],
    .ofList ['a', Char.ofNat 0, 'b'], "", "", []⟩,
    by decide +kernel, by decide +kernel, by decide +kernel⟩

end Rpcn
