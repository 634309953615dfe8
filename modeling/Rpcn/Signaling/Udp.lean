/-
  File:      Rpcn/Signaling/Udp.lean
  Subject:   THE UDP SERVER (udp_server.rs): how the server learns a client's addresses.

  A client sends packets of 13 bytes with its user id and its local address; where the packet came
  from is its public address. The server first tests, under a read lock, whether an update is needed,
  and updates under the write lock only then. The test compares the public address of the packet's
  family. It does not look at the local address, which the update writes too.
-/
import Rpcn.Lib.HashMap
import Rpcn.Np2Structs

namespace Rpcn.Signaling

open Lib

/-- `client_infos`, as far as the signaling information goes. -/
abbrev ClientInfos := HashMap UserId ClientSharedSignalingInfo

/-! ## 1. Addresses -/

inductive IpAddr where
  | v4 (addr : Vector UInt8 4)
  | v6 (addr : Vector UInt8 16)
  deriving DecidableEq, Repr

/-- `Ipv6Addr::to_ipv4`: an IPv4-mapped (`::ffff:a.b.c.d`) or IPv4-compatible (`::a.b.c.d`)
    address. -/
def toIpv4 (addr : Vector UInt8 16) : Option (Vector UInt8 4) :=
  if addr.toList.take 10 = List.replicate 10 0 ∧
      ((addr[10], addr[11]) = (0, 0) ∨ (addr[10], addr[11]) = (0xff, 0xff)) then
    some #v[addr[12], addr[13], addr[14], addr[15]]
  else none

/-- The source address by its family: an IPv4 address in either form, or a real IPv6 one. -/
def IpAddr.family : IpAddr → Vector UInt8 4 ⊕ Vector UInt8 16
  | .v4 addr => .inl addr
  | .v6 addr =>
    match toIpv4 addr with
    | some ipv4 => .inl ipv4
    | none => .inr addr

/-! ## 2. The update -/

def needUpdate (si : ClientSharedSignalingInfo) (ipAddr : IpAddr) (ipPort : UInt16) : Bool :=
  match ipAddr with
  | .v4 addr => si.addrP2pIpv4.1 ≠ addr || si.addrP2pIpv4.2 ≠ ipPort
  | .v6 addr =>
    match toIpv4 addr with
    | some ipv4 => si.addrP2pIpv4.1 ≠ ipv4 || si.addrP2pIpv4.2 ≠ ipPort
    | none =>
      match si.addrP2pIpv6 with
      | none => true
      | some siAddr => siAddr.1 ≠ addr || siAddr.2 ≠ ipPort

def storeUpdate (si : ClientSharedSignalingInfo) (localAddr : Vector UInt8 4) (ipAddr : IpAddr)
    (ipPort : UInt16) : ClientSharedSignalingInfo :=
  let si := { si with localAddrP2p := localAddr }
  match ipAddr with
  | .v4 addr => { si with addrP2pIpv4 := (addr, ipPort) }
  | .v6 addr =>
    match toIpv4 addr with
    | some ipv4 => { si with addrP2pIpv4 := (ipv4, ipPort) }
    | none => { si with addrP2pIpv6 := some (addr, ipPort) }

def updateSignalingInformation (infos : ClientInfos) (userId : UserId)
    (localAddr : Vector UInt8 4) (ipAddr : IpAddr) (ipPort : UInt16) : ClientInfos :=
  match infos.get? userId with
  | none => infos
  | some si =>
    if needUpdate si ipAddr ipPort then
      infos.insert userId (storeUpdate si localAddr ipAddr ipPort)
    else infos

/-! ## 3. Packets -/

def i64FromLeBytes (bytes : List UInt8) : Int :=
  (BitVec.ofNat 64 (bytes.foldr (fun b n => b.toNat + 256 * n) 0)).toInt

/-- The user id and the local address of a packet; `none` where it is invalid. -/
def parsePacket (buf : List UInt8) : Option (UserId × Vector UInt8 4) :=
  match buf with
  | [kind, b₁, b₂, b₃, b₄, b₅, b₆, b₇, b₈, a₁, a₂, a₃, a₄] =>
    if kind ≠ 1 then none
    else some (i64FromLeBytes [b₁, b₂, b₃, b₄, b₅, b₆, b₇, b₈], #v[a₁, a₂, a₃, a₄])
  | _ => none

/-- The reply: port and subset 0, then the source address and its port, big endian. -/
def replyTo (ipAddr : IpAddr) (ipPort : UInt16) : List UInt8 :=
  let octets : List UInt8 :=
    match ipAddr with
    | .v4 addr => addr.toList
    | .v6 addr =>
      match toIpv4 addr with
      | some ipv4 => ipv4.toList
      | none => addr.toList
  0 :: 0 :: 0 :: octets ++ [(ipPort >>> 8).toUInt8, ipPort.toUInt8]

/-- `handle_socket_input`, for a datagram `buf` from `src`: the infos after it and the reply, if one
    is sent. -/
def handleSocketInput (infos : ClientInfos) (buf : List UInt8) (src : IpAddr × UInt16) :
    ClientInfos × Option (List UInt8) :=
  match parsePacket buf with
  | none => (infos, none)
  | some (userId, localAddr) =>
    (updateSignalingInformation infos userId localAddr src.1 src.2, some (replyTo src.1 src.2))

/-! ## 4. What an update stores, and when it is made -/

theorem storeUpdate_spec (si : ClientSharedSignalingInfo) (localAddr : Vector UInt8 4)
    (ipAddr : IpAddr) (ipPort : UInt16) :
    storeUpdate si localAddr ipAddr ipPort =
      match ipAddr.family with
      | .inl ipv4 => ⟨(ipv4, ipPort), si.addrP2pIpv6, localAddr⟩
      | .inr ipv6 => ⟨si.addrP2pIpv4, some (ipv6, ipPort), localAddr⟩ := by
  cases ipAddr with
  | v4 addr => rfl
  | v6 addr =>
    cases h : toIpv4 addr with
    | none => simp only [storeUpdate, IpAddr.family, h]
    | some ipv4 => simp only [storeUpdate, IpAddr.family, h]

theorem needUpdate_eq_false_iff (si : ClientSharedSignalingInfo) (ipAddr : IpAddr)
    (ipPort : UInt16) :
    needUpdate si ipAddr ipPort = false ↔
      match ipAddr.family with
      | .inl ipv4 => si.addrP2pIpv4 = (ipv4, ipPort)
      | .inr ipv6 => si.addrP2pIpv6 = some (ipv6, ipPort) := by
  cases ipAddr with
  | v4 addr => simp [needUpdate, IpAddr.family, Prod.ext_iff]
  | v6 addr =>
    cases h : toIpv4 addr with
    | some ipv4 => simp [needUpdate, IpAddr.family, h, Prod.ext_iff]
    | none =>
      cases hsi : si.addrP2pIpv6 with
      | none => simp [needUpdate, IpAddr.family, h, hsi]
      | some siAddr => simp [needUpdate, IpAddr.family, h, hsi, Prod.ext_iff]

theorem storeUpdate_eq_self_iff {si : ClientSharedSignalingInfo} {ipAddr : IpAddr}
    {ipPort : UInt16} (h : needUpdate si ipAddr ipPort = false) (localAddr : Vector UInt8 4) :
    storeUpdate si localAddr ipAddr ipPort = si ↔ si.localAddrP2p = localAddr := by
  rw [needUpdate_eq_false_iff] at h
  rw [storeUpdate_spec]
  obtain ⟨ipv4, ipv6, stored⟩ := si
  cases hf : ipAddr.family with
  | inl addr =>
    rw [hf] at h
    simp_all [eq_comm]
  | inr addr =>
    rw [hf] at h
    simp_all [eq_comm]

/-- **When a skipped update is invisible.** For every connected user, every valid packet and every
    source: the packet leaves the user with what the unconditional update stores exactly when the
    address of the packet's family is new or the local address is the one stored. Nobody else's
    information changes. -/
theorem signaling_update_iff (infos : ClientInfos) (buf : List UInt8) (src : IpAddr × UInt16)
    {userId : UserId} {localAddr : Vector UInt8 4} {si : ClientSharedSignalingInfo}
    (hbuf : parsePacket buf = some (userId, localAddr)) (hsi : infos.get? userId = some si) :
    (storeUpdate si localAddr src.1 src.2 =
      match src.1.family with
      | .inl ipv4 => ⟨(ipv4, src.2), si.addrP2pIpv6, localAddr⟩
      | .inr ipv6 => ⟨si.addrP2pIpv4, some (ipv6, src.2), localAddr⟩) ∧
    ((handleSocketInput infos buf src).1.get? userId =
        some (storeUpdate si localAddr src.1 src.2) ↔
      needUpdate si src.1 src.2 = true ∨ si.localAddrP2p = localAddr) ∧
    ∀ other, other ≠ userId →
      (handleSocketInput infos buf src).1.get? other = infos.get? other := by
  refine ⟨storeUpdate_spec si localAddr src.1 src.2, ?_, ?_⟩
  · unfold handleSocketInput updateSignalingInformation
    simp only [hbuf, hsi]
    cases hneed : needUpdate si src.1 src.2 with
    | true => simp
    | false => simp [hsi, ← storeUpdate_eq_self_iff hneed localAddr, eq_comm]
  · intro other hne
    unfold handleSocketInput updateSignalingInformation
    simp only [hbuf, hsi]
    split
    · simp [hne]
    · rfl

def packetOf (host : UInt8) : List UInt8 := [1, 7, 0, 0, 0, 0, 0, 0, 0, 192, 168, 1, host]

def homeAddr : IpAddr × UInt16 := (.v4 #v[203, 0, 113, 5], 3658)

def homeInfos : ClientInfos :=
  (∅ : ClientInfos).insert 7 ⟨(#v[203, 0, 113, 5], 3658), none, #v[192, 168, 1, 2]⟩

theorem signaling_update_iff_again :
    (handleSocketInput homeInfos (packetOf 2) homeAddr).1.get? 7 = homeInfos.get? 7 := by
  have hbuf : parsePacket (packetOf 2) = some (7, #v[192, 168, 1, 2]) := by decide
  have hsi : homeInfos.get? 7 =
      some ⟨(#v[203, 0, 113, 5], 3658), none, #v[192, 168, 1, 2]⟩ := by decide
  rw [hsi, (signaling_update_iff homeInfos (packetOf 2) homeAddr hbuf hsi).2.1.mpr (Or.inr rfl)]
  decide

/-- **A new local address is lost.** The client has moved to 192.168.1.9 behind the same public
    address: the server keeps 192.168.1.2. -/
theorem local_address_lost :
    parsePacket (packetOf 9) = some (7, #v[192, 168, 1, 9]) ∧
      ((handleSocketInput homeInfos (packetOf 9) homeAddr).1.get? 7).map (·.localAddrP2p) =
        some #v[192, 168, 1, 2] := by
  decide

end Rpcn.Signaling
