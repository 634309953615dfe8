/-
  File:      Rpcn/Ticket/Request.lean
  Subject:   REQUESTS FOR TICKETS (req_ticket): which of them make tickets with true lengths.

  The handler takes a service id and a cookie from its packet. The service id is cut to the width of
  its field; the cookie goes into the ticket as it is, and nothing but the size of the packet bounds
  it. The lengths of the ticket have sixteen bits.
-/
import Rpcn.Client.Handler
import Rpcn.Ticket.Data

namespace Rpcn

open Lib Session StreamExtractor

/-! ## 1. The handler -/

variable {serviceId : String} {cookie : List UInt8}

section Request

variable (now : UInt64) (signInfo : Option (List UInt8 → Option (List UInt8)))

def ClientState.source (s : ClientState) : TicketSource :=
  ⟨.ofInt s.client.userId, s.client.clientInfo.npid, s.ticketIdDispenser, now, signInfo⟩

/-- `req_ticket`: the reply. -/
def reqTicket : ClientCall (List UInt8) := do
  let serviceId ← extract (StreamExtractor.getString false)
  let cookie ← extract StreamExtractor.getRawdata
  let s ← Call.read
  if s.data.error then Call.fail .malformed
  else do
    Call.modify (ClientState.requesting serviceId)
    let s ← Call.read
    Call.modify fun s => { s with ticketIdDispenser := s.ticketIdDispenser + 1 }
    let ticket := Ticket.new (s.source now signInfo) serviceId cookie
    pure (addDataPacket ticket.generateBlob)

/-- The bytes of a request: the service id, one byte a character, a zero, and the cookie with its
    length. -/
def ticketBytes (serviceId : String) (cookie : List UInt8) : List UInt8 :=
  (serviceId.toList.map (fun c => UInt8.ofNat c.toNat) ++ [0]) ++
    (leBytes 4 cookie.length ++ cookie)

def ClientState.ticket (s : ClientState) (serviceId : String) (cookie : List UInt8) : Ticket :=
  .new (s.source now signInfo) serviceId cookie

theorem source_requesting (serviceId : String) (s : ClientState) :
    (s.requesting serviceId).source now signInfo = s.source now signInfo := by
  unfold ClientState.requesting
  split
  · split
    · rfl
    · rfl
  · rfl

theorem reqTicket_run {s : ClientState} {d₁ d₂ : StreamExtractor}
    (h₁ : getString false s.data = (.ok serviceId, d₁))
    (h₂ : getRawdata d₁ = (.ok cookie, d₂)) :
    (reqTicket now signInfo s).1 =
      if d₂.error then .err .malformed
      else .ok (addDataPacket (s.ticket now signInfo serviceId cookie).generateBlob) := by
  have hraw := extract_ok (s := s.reading d₁) h₂
  unfold reqTicket
  rw [Call.bind_ok (extract_ok h₁), Call.bind_ok hraw, Call.read_bind_run]
  have herror : ((s.reading d₁).reading d₂).data.error = d₂.error := rfl
  rw [herror]
  split
  · rfl
  · rw [Call.modify_bind_run, Call.read_bind_run, Call.modify_bind_run, Call.pure_run,
      source_requesting]
    rfl

end Request

theorem ticket_fields (packet : List UInt8) :
    ∃ serviceId cookie d₁ d₂,
      getString false (.new packet) = (.ok serviceId, d₁) ∧
      getRawdata d₁ = (.ok cookie, d₂) ∧
      (d₂.error = false → ticketBytes serviceId cookie <+: packet) := by
  obtain ⟨vs, d₂, hcalls, hx⟩ := calls_extracted (fun (_ : Unit) _ => (none : Option Unit))
    [.getString false, .getRawdata] (.new packet)
  obtain ⟨v₁, d₁, h₁, hcalls⟩ := Call.bind_eq_ok hcalls
  obtain ⟨vs', d₂', hcalls, hpure⟩ := Call.bind_eq_ok hcalls
  obtain ⟨v₂, d₃, h₂, hcalls⟩ := Call.bind_eq_ok hcalls
  cases hcalls
  cases hpure
  obtain ⟨serviceId, hstr, rfl⟩ := Call.mapOk_run_eq_ok h₁
  obtain ⟨cookie, hraw, rfl⟩ := Call.mapOk_run_eq_ok h₂
  refine ⟨serviceId, cookie, d₁, d₂, hstr, hraw, ?_⟩
  intro herror
  obtain ⟨bytes, henc, hp, -⟩ := hx.exact herror (by simp [ExtractVal.isErr])
  cases henc with
  | cons henc₁ hrest =>
    cases hrest with
    | cons henc₂ hnil =>
      cases hnil
      cases henc₁
      cases henc₂
      rw [List.append_nil] at hp
      exact hp

variable {packet : List UInt8}

theorem ticket_fields_encoded (hid : ∀ c ∈ serviceId.toList, 0 < c.toNat ∧ c.toNat < 256)
    (hne : serviceId ≠ "") (hcookie : cookie.length < 2 ^ 32)
    (hp : ticketBytes serviceId cookie <+: packet) :
    ∃ d₁ d₂, getString false (.new packet) = (.ok serviceId, d₁) ∧
      getRawdata d₁ = (.ok cookie, d₂) ∧ d₂.error = false := by
  let decode : Unit → List UInt8 → Option Unit := fun _ _ => none
  have hahead : (new packet).ahead = packet := rfl
  rw [ticketBytes, ← hahead, append_ahead] at hp
  have hstr := call_encoded (.str hid (Or.inr hne) : Encodes decode (.getString false) _ _) hp.1
  have hraw := call_encoded (.raw hcookie : Encodes decode .getRawdata _ _) hp.2
  obtain ⟨serviceId', h₁, hv₁⟩ := Call.mapOk_run_eq_ok hstr
  obtain ⟨cookie', h₂, hv₂⟩ := Call.mapOk_run_eq_ok hraw
  cases hv₁
  cases hv₂
  exact ⟨_, _, h₁, h₂, rfl⟩

theorem reqTicket_accepts (now : UInt64) (signInfo : Option (List UInt8 → Option (List UInt8)))
    (s : ClientState) (hid : ∀ c ∈ serviceId.toList, 0 < c.toNat ∧ c.toNat < 256)
    (hne : serviceId ≠ "") (hcookie : cookie.length < 2 ^ 32)
    (hp : ticketBytes serviceId cookie <+: packet) :
    (reqTicket now signInfo (s.receive packet)).1 =
      .ok (addDataPacket (Ticket.new (s.source now signInfo) serviceId cookie).generateBlob) := by
  obtain ⟨d₁, d₂, h₁, h₂, herror⟩ := ticket_fields_encoded hid hne hcookie hp
  rw [reqTicket_run (s := s.receive packet) now signInfo h₁ h₂, herror]
  rfl

/-! ## 2. Lengths -/

/-- **Every length in a ticket is true**: that of each node, and the size of the whole. -/
def Ticket.LengthsTrue (t : Ticket) : Prop :=
  (∀ d ∈ t.data, ∀ n ∈ d.nodes, n.write.length = 4 + n.len.toNat) ∧
    t.size.toNat = (t.data.flatMap TicketData.write).length

def Ticket.signatureLength (src : TicketSource) (serviceId : String) (cookie : List UInt8) : Nat :=
  (src.signInfo.bind fun sign => sign (Ticket.userBlob src serviceId cookie).write).elim 56
    List.length

theorem lengthsTrue_iff (src : TicketSource) (serviceId : String) (cookie : List UInt8) :
    (Ticket.new src serviceId cookie).LengthsTrue ↔
      cookie.length ≤ 65363 ∧ Ticket.signatureLength src serviceId cookie ≤ 65519 := by
  have hd := Ticket.length_userBlob src serviceId cookie
  have he := Ticket.length_signTicket (Ticket.userBlob src serviceId cookie) src.signInfo
  have hnil : cookie = [] ↔ cookie.length = 0 := List.length_eq_zero_iff.symm
  rw [← Ticket.signatureLength] at he
  simp only [hnil] at hd
  generalize Ticket.signatureLength src serviceId cookie = sig at he
  rw [Ticket.new]
  generalize Ticket.signTicket (Ticket.userBlob src serviceId cookie) src.signInfo = e at he
  generalize Ticket.userBlob src serviceId cookie = d at hd he
  have hroom : d.write.length ≤ 65535 ∧ e.write.length ≤ 65535 ↔
      cookie.length ≤ 65363 ∧ sig ≤ 65519 := by
    rw [hd, he]
    split
    · omega
    · omega
  have hbytes : (([d, e] : List TicketData).flatMap TicketData.write).length =
      d.write.length + e.write.length := by simp
  rw [← hroom, Ticket.LengthsTrue, hbytes]
  simp only [List.mem_cons, List.not_mem_nil, or_false, forall_eq_or_imp, forall_eq,
    TicketData.lens_true_iff]
  constructor
  · rintro ⟨⟨hdf, hef⟩, hsize⟩
    exact (Ticket.toNat_size_eq_iff hdf hef).mp hsize
  · rintro ⟨hdw, hew⟩
    have hdf := d.fits_iff_write.mpr (by omega)
    have hef := e.fits_iff_write.mpr (by omega)
    exact ⟨⟨hdf, hef⟩, (Ticket.toNat_size_eq_iff hdf hef).mpr ⟨hdw, hew⟩⟩

/-- **The lengths of a ticket do not wrap** exactly if the cookie and the signature leave room. For
    every client, packet, key and time: a request that is answered has the service id and the cookie
    its packet starts with, the reply is the ticket made of them, and each length in it is true
    exactly if the cookie is 65363 bytes long at most and the signature 65519. -/
theorem ticket_lengths_exact (now : UInt64)
    (signInfo : Option (List UInt8 → Option (List UInt8))) (s : ClientState)
    (packet reply : List UInt8) (h : (reqTicket now signInfo (s.receive packet)).1 = .ok reply) :
    ∃ serviceId cookie, ticketBytes serviceId cookie <+: packet ∧
      reply = addDataPacket (Ticket.new (s.source now signInfo) serviceId cookie).generateBlob ∧
      ((Ticket.new (s.source now signInfo) serviceId cookie).LengthsTrue ↔
        cookie.length ≤ 65363 ∧
          Ticket.signatureLength (s.source now signInfo) serviceId cookie ≤ 65519) := by
  obtain ⟨serviceId, cookie, d₁, d₂, h₁, h₂, hp⟩ := ticket_fields packet
  rw [reqTicket_run (s := s.receive packet) now signInfo h₁ h₂] at h
  split at h
  · cases h
  · rename_i herror
    cases h
    exact ⟨serviceId, cookie, hp (by simpa using herror), rfl, lengthsTrue_iff _ serviceId cookie⟩

theorem ticket_lengths_exact_short :
    ∃ serviceId cookie, ticketBytes serviceId cookie <+: ticketBytes "A" [1, 2] ∧
      addDataPacket (Ticket.new (freshClient.source 0 none) "A" [1, 2]).generateBlob =
        addDataPacket (Ticket.new (freshClient.source 0 none) serviceId cookie).generateBlob ∧
      ((Ticket.new (freshClient.source 0 none) serviceId cookie).LengthsTrue ↔
        cookie.length ≤ 65363 ∧
          Ticket.signatureLength (freshClient.source 0 none) serviceId cookie ≤ 65519) :=
  ticket_lengths_exact 0 none freshClient (ticketBytes "A" [1, 2]) _
    (reqTicket_accepts 0 none freshClient (by simp) (by decide +kernel) (by decide)
      List.prefix_rfl)

/-- **A cookie of 65364 bytes** is accepted, in a packet far below the limit of 8 MiB, and makes a
    ticket whose size is wrong. -/
theorem long_cookie_wraps :
    ∃ cookie packet : List UInt8, packet.length ≤ 0x800000 ∧
      (reqTicket 0 none (freshClient.receive packet)).1 =
        .ok (addDataPacket (Ticket.new (freshClient.source 0 none) "A" cookie).generateBlob) ∧
      ¬ (Ticket.new (freshClient.source 0 none) "A" cookie).LengthsTrue := by
  have hcookie : (List.replicate 65364 (0 : UInt8)).length = 65364 := List.length_replicate
  refine ⟨List.replicate 65364 0, ticketBytes "A" (List.replicate 65364 0), ?_, ?_, ?_⟩
  · have hid : ("A".toList.map fun c => UInt8.ofNat c.toNat).length = 1 := by decide +kernel
    rw [ticketBytes, List.length_append, List.length_append, List.length_append, length_leBytes,
      hcookie, hid]
    decide
  · refine reqTicket_accepts 0 none freshClient (by simp) (by decide +kernel) ?_ List.prefix_rfl
    rw [hcookie]
    decide
  · rw [lengthsTrue_iff, hcookie]
    omega

end Rpcn
