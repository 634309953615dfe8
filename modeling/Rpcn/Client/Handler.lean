/-
  File:      Rpcn/Client/Handler.lean
  Subject:   WHAT A HANDLER OF A PACKET WORKS ON (client.rs).

  A handler reads its packet with the extractor and changes the client and, behind locks, a part of
  what the clients share. It returns the reply, an error, or panics.
-/
import Rpcn.Session.Data
import Rpcn.StreamExtractor

namespace Rpcn

open Lib Session StreamExtractor

/-! ## 1. The state of a handler -/

structure ClientSharedPresence where
  communicationId : ComId
  title : String
  status : String
  comment : String
  data : List UInt8
  deriving DecidableEq

structure ClientState where
  data : StreamExtractor
  client : Client
  presence : Option ClientSharedPresence
  gameTracker : GameTracker
  ticketIdDispenser : UInt64

inductive ClientPanic where
  | extract (p : ExtractPanic)
  /-- `String::truncate` inside of a character. -/
  | notCharBoundary
  deriving DecidableEq, Repr

abbrev ClientCall := Call ErrorType ClientPanic ClientState

namespace ClientState

def reading (data : StreamExtractor) (s : ClientState) : ClientState := { s with data := data }

def receive (packet : List UInt8) (s : ClientState) : ClientState := s.reading (.new packet)

/-- The client is counted for a game. -/
def playing (finalComId : ComId) (s : ClientState) : ClientState :=
  match s.client.currentGame.1 with
  | some curComId =>
    if curComId ≠ finalComId then
      { s with
        client := { s.client with currentGame := (some finalComId, s.client.currentGame.2) }
        gameTracker := (s.gameTracker.decreaseCountPsn curComId).increaseCountPsn finalComId }
    else s
  | none =>
    { s with
      client := { s.client with currentGame := (some finalComId, s.client.currentGame.2) }
      gameTracker := s.gameTracker.increaseCountPsn finalComId }

/-- The client is counted for a service it wants tickets of. -/
def requesting (serviceId : String) (s : ClientState) : ClientState :=
  match s.client.currentGame.2 with
  | some curServiceId =>
    if curServiceId ≠ serviceId then
      { s with
        client := { s.client with currentGame := (s.client.currentGame.1, some serviceId) }
        gameTracker :=
          (s.gameTracker.decreaseCountTicket curServiceId).increaseCountTicket serviceId }
    else s
  | none =>
    { s with
      client := { s.client with currentGame := (s.client.currentGame.1, some serviceId) }
      gameTracker := s.gameTracker.increaseCountTicket serviceId }

theorem presence_playing (finalComId : ComId) (s : ClientState) :
    (s.playing finalComId).presence = s.presence := by
  unfold playing
  split
  · split
    · rfl
    · rfl
  · rfl

theorem data_playing (finalComId : ComId) (s : ClientState) :
    (s.playing finalComId).data = s.data := by
  unfold playing
  split
  · split
    · rfl
    · rfl
  · rfl

theorem playing_reading (finalComId : ComId) (data data' : StreamExtractor) (s : ClientState) :
    ((s.reading data).playing finalComId).reading data' = (s.playing finalComId).reading data' := by
  simp only [playing, reading]
  split
  · split
    · rfl
    · rfl
  · rfl

end ClientState

def extract {α : Type} (c : ExtractCall α) : ClientCall α := fun s =>
  match c s.data with
  | (.ok a, data) => (.ok a, s.reading data)
  | (.err e, data) => (.err e, s.reading data)
  | (.panic p, data) => (.panic (.extract p), s.reading data)

theorem extract_ok {α : Type} {c : ExtractCall α} {s : ClientState} {a : α}
    {data : StreamExtractor} (h : c s.data = (.ok a, data)) :
    extract c s = (.ok a, s.reading data) := by
  rw [extract, h]

/-! ## 2. The helpers -/

/-- `add_data_packet`: what it appends to the reply. -/
def addDataPacket (data : List UInt8) : List UInt8 := leBytes 4 (data.length % 2 ^ 32) ++ data

/-- `get_com_id_with_redir`. A malformed id is counted like any other. -/
def getComIdWithRedir (cfg : Config) : ClientCall ComId := do
  let comId ← extract StreamExtractor.getComId
  let finalComId := cfg.getServerRedirection comId
  Call.modify (ClientState.playing finalComId)
  pure finalComId

section Messages

variable {Msg : Type} (decode : List UInt8 → Option Msg)

/-- A message counts if it was decoded and nothing failed before. -/
def accepted (pbReq : Option Msg) (error : Bool) : Option Msg := if error then none else pbReq

def getPb : ClientCall Msg := do
  let pbReq ← extract (StreamExtractor.getProtobuf decode)
  let s ← Call.read
  match accepted pbReq s.data.error with
  | some m => pure m
  | none => Call.fail .malformed

def getComAndPb (cfg : Config) : ClientCall (ComId × Msg) := do
  let comId ← getComIdWithRedir cfg
  let pbReq ← getPb decode
  pure (comId, pbReq)

/-- The com id and the message of a packet, as far as it has them. -/
def fields (packet : List UInt8) : Option (ComId × Msg) :=
  let (comId, s) := StreamExtractor.getComId (.new packet)
  let (pbReq, s) := StreamExtractor.getProtobuf decode s
  match comId, pbReq with
  | .ok comId, .ok pbReq => (accepted pbReq s.error).map fun m => (comId, m)
  | _, _ => none

theorem getComIdWithRedir_run (cfg : Config) {s : ClientState} {comId : ComId}
    {data : StreamExtractor} (h : getComId s.data = (.ok comId, data)) :
    getComIdWithRedir cfg s =
      (.ok (cfg.getServerRedirection comId),
        (s.reading data).playing (cfg.getServerRedirection comId)) := by
  unfold getComIdWithRedir
  rw [Call.bind_ok (extract_ok h), Call.modify_bind_run, Call.pure_run]

theorem getPb_run {s : ClientState} {pbReq : Option Msg} {data : StreamExtractor}
    (h : getProtobuf decode s.data = (.ok pbReq, data)) :
    getPb decode s =
      ((accepted pbReq data.error).elim (.err .malformed) .ok, s.reading data) := by
  unfold getPb
  rw [Call.bind_ok (extract_ok h), Call.read_bind_run]
  have herror : (s.reading data).data.error = data.error := rfl
  rw [herror]
  cases accepted pbReq data.error with
  | none => rfl
  | some m => rfl

theorem getComAndPb_run (cfg : Config) (packet : List UInt8) (s : ClientState) :
    ∃ comId data, getComAndPb decode cfg (s.receive packet) =
      ((fields decode packet).elim (.err .malformed)
        fun r => .ok (cfg.getServerRedirection r.1, r.2),
        (s.playing (cfg.getServerRedirection comId)).reading data) := by
  obtain ⟨comId, data, hcom⟩ := getComId_returns (.new packet)
  obtain ⟨pbReq, data', hpb⟩ := sized_returns none decode data
  rw [← getProtobuf_eq] at hpb
  refine ⟨comId, data', ?_⟩
  have hfields : fields decode packet = (accepted pbReq data'.error).map fun m => (comId, m) := by
    simp only [fields, hcom, hpb]
  have hdata : (((s.receive packet).reading data).playing
      (cfg.getServerRedirection comId)).data = data := ClientState.data_playing _ _
  have hget := getPb_run decode (by rw [hdata]; exact hpb)
  rw [ClientState.receive] at hget ⊢
  rw [getComAndPb, Call.bind_ok (getComIdWithRedir_run cfg hcom), hfields]
  rw [ClientState.playing_reading, ClientState.playing_reading] at hget
  cases hacc : accepted pbReq data'.error with
  | none =>
    rw [hacc] at hget
    rw [Call.bind_err hget]
    rfl
  | some m =>
    rw [hacc] at hget
    rw [Call.bind_ok hget]
    rfl

end Messages

def plainConfig : Config := ⟨false, id, fun _ _ => []⟩

def freshClient : ClientState := ⟨.new [], .new, none, .new, 1⟩

end Rpcn
