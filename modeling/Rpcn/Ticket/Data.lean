/-
  File:      Rpcn/Ticket/Data.lean
  Subject:   TICKETS (ticket.rs): the tree of a ticket, its bytes, and reading them back.

  A node is written as its id and its length, sixteen bits each, and its contents; a blob contains
  nodes. `len` computes the lengths by a recursion of its own, in sixteen bits: it is right exactly
  as long as the contents fit into 65535 bytes. `generate_blob` adds the four bytes of a header to
  each of these lengths, again in sixteen bits, before it widens them: there the last four values
  wrap (`blob_size_wraps`).
-/
import Rpcn.Lib.Bytes
import Rpcn.Lib.Utf8

namespace Rpcn

open Lib

/-! ## 1. The tree and its bytes -/

inductive TicketData where
  | empty
  | u32 (value : UInt32)
  | u64 (value : UInt64)
  | time (value : UInt64)
  | binary (bytes : List UInt8)
  | bString (bytes : List UInt8)
  | blob (id : UInt8) (sdata : List TicketData)

variable (d : TicketData)

namespace TicketData

def id : TicketData → UInt16
  | .empty => 0
  | .u32 _ => 1
  | .u64 _ => 2
  | .bString _ => 4
  | .time _ => 7
  | .binary _ => 8
  | .blob id _ => 0x3000 ||| id.toUInt16

mutual

/-- `TicketData::len`. All of it is computed in sixteen bits. -/
def len : TicketData → UInt16
  | .empty => 0
  | .u32 _ => 4
  | .u64 _ => 8
  | .bString bytes => bytes.length.toUInt16
  | .time _ => 8
  | .binary bytes => bytes.length.toUInt16
  | .blob _ sdata => lenAll sdata

def lenAll : List TicketData → UInt16
  | [] => 0
  | x :: xs => (x.len + 4) + lenAll xs

end

/-- What `write` appends first: the id and the length. -/
def header (d : TicketData) : List UInt8 := beBytes 2 d.id.toNat ++ beBytes 2 d.len.toNat

mutual

/-- `TicketData::write`: the bytes it appends. -/
def write : TicketData → List UInt8
  | .empty => header .empty
  | .u32 value => header (.u32 value) ++ beBytes 4 value.toNat
  | .u64 value => header (.u64 value) ++ beBytes 8 value.toNat
  | .bString bytes => header (.bString bytes) ++ bytes
  | .time value => header (.time value) ++ beBytes 8 value.toNat
  | .binary bytes => header (.binary bytes) ++ bytes
  | .blob id sdata => header (.blob id sdata) ++ writeAll sdata

def writeAll : List TicketData → List UInt8
  | [] => []
  | x :: xs => x.write ++ writeAll xs

end

def contents : TicketData → List UInt8
  | .empty => []
  | .u32 value => beBytes 4 value.toNat
  | .u64 value => beBytes 8 value.toNat
  | .bString bytes => bytes
  | .time value => beBytes 8 value.toNat
  | .binary bytes => bytes
  | .blob _ sdata => writeAll sdata

theorem write_eq : d.write = d.header ++ d.contents := by
  cases d with
  | empty => rw [write, contents, List.append_nil]
  | u32 value => rw [write, contents]
  | u64 value => rw [write, contents]
  | time value => rw [write, contents]
  | binary bytes => rw [write, contents]
  | bString bytes => rw [write, contents]
  | blob id sdata => rw [write, contents]

theorem length_header : d.header.length = 4 := by
  rw [header, List.length_append, length_beBytes, length_beBytes]

theorem length_write : d.write.length = 4 + d.contents.length := by
  rw [write_eq, List.length_append, length_header]

theorem length_writeAll_cons (x : TicketData) (xs : List TicketData) :
    (writeAll (x :: xs)).length = 4 + x.contents.length + (writeAll xs).length := by
  rw [writeAll, List.length_append, length_write]

/-! ## 2. Lengths -/

mutual

def nodes : TicketData → List TicketData
  | .empty => [.empty]
  | .u32 value => [.u32 value]
  | .u64 value => [.u64 value]
  | .time value => [.time value]
  | .binary bytes => [.binary bytes]
  | .bString bytes => [.bString bytes]
  | .blob id sdata => .blob id sdata :: nodesAll sdata

def nodesAll : List TicketData → List TicketData
  | [] => []
  | x :: xs => x.nodes ++ nodesAll xs

end

/-- **The contents of every node** are 65535 bytes at most. -/
def Fits (d : TicketData) : Prop := ∀ n ∈ d.nodes, n.contents.length ≤ 65535

theorem self_mem_nodes : d ∈ d.nodes := by
  cases d <;> simp [nodes]

mutual

theorem contents_le : ∀ (d : TicketData), ∀ n ∈ d.nodes, n.contents.length ≤ d.contents.length
  | .blob id sdata, n, h => by
      rw [nodes, List.mem_cons] at h
      rcases h with rfl | h
      · exact Nat.le_refl _
      · rw [contents]
        exact contents_le_all sdata n h
  | .empty, n, h | .u32 _, n, h | .u64 _, n, h | .time _, n, h | .binary _, n, h
  | .bString _, n, h => by
      rw [nodes, List.mem_singleton] at h
      exact Nat.le_of_eq (by rw [h])

theorem contents_le_all : ∀ (xs : List TicketData), ∀ n ∈ nodesAll xs,
    n.contents.length ≤ (writeAll xs).length
  | [], n, h => absurd h List.not_mem_nil
  | x :: xs, n, h => by
      rw [nodesAll, List.mem_append] at h
      rw [length_writeAll_cons]
      rcases h with h | h
      · have := contents_le x n h
        omega
      · have := contents_le_all xs n h
        omega

end

theorem fits_iff : d.Fits ↔ d.contents.length ≤ 65535 := by
  constructor
  · intro h
    exact h d d.self_mem_nodes
  · intro h n hn
    exact Nat.le_trans (contents_le d n hn) h

theorem fits_iff_write : d.Fits ↔ d.write.length ≤ 65539 := by
  rw [fits_iff, length_write]
  omega

mutual

theorem len_eq : ∀ (d : TicketData), d.contents.length ≤ 65535 → d.len.toNat = d.contents.length
  | .empty, _ => by rw [len, contents]; rfl
  | .u32 _, _ => by rw [len, contents, length_beBytes]; rfl
  | .u64 _, _ => by rw [len, contents, length_beBytes]; rfl
  | .time _, _ => by rw [len, contents, length_beBytes]; rfl
  | .binary bytes, h => by
      rw [contents] at h
      rw [len, contents, Nat.toUInt16, UInt16.toNat_ofNat']
      omega
  | .bString bytes, h => by
      rw [contents] at h
      rw [len, contents, Nat.toUInt16, UInt16.toNat_ofNat']
      omega
  | .blob _ sdata, h => by
      rw [contents] at h
      rw [len, contents]
      exact lenAll_eq sdata h

theorem lenAll_eq : ∀ (xs : List TicketData), (writeAll xs).length ≤ 65535 →
    (lenAll xs).toNat = (writeAll xs).length
  | [], _ => by rw [lenAll, writeAll]; rfl
  | x :: xs, h => by
      rw [length_writeAll_cons] at h
      have hx := len_eq x (by omega)
      have hxs := lenAll_eq xs (by omega)
      have hfour : (4 : UInt16).toNat = 4 := rfl
      rw [lenAll, length_writeAll_cons, UInt16.toNat_add, UInt16.toNat_add, hx, hxs, hfour]
      omega

end

theorem lens_true_iff : (∀ n ∈ d.nodes, n.write.length = 4 + n.len.toNat) ↔ d.Fits := by
  constructor
  · intro h n hn
    have hlen := h n hn
    have hlt := n.len.toNat_lt
    rw [length_write] at hlen
    omega
  · intro h n hn
    rw [length_write, len_eq n (h n hn)]

/-! ## 3. Reading -/

def leaf (id : Nat) (contents : List UInt8) : Option TicketData :=
  match id with
  | 0 => if contents.length = 0 then some .empty else none
  | 1 => if contents.length = 4 then some (.u32 (.ofNat (ofBe contents))) else none
  | 2 => if contents.length = 8 then some (.u64 (.ofNat (ofBe contents))) else none
  | 4 => some (.bString contents)
  | 7 => if contents.length = 8 then some (.time (.ofNat (ofBe contents))) else none
  | 8 => some (.binary contents)
  | _ => none

mutual

/-- **A reader of tickets**: a `u16` id and a `u16` length, the highest byte first, then as many bytes,
    which are nodes again where the id is `0x30xx`. -/
def readNode : Nat → List UInt8 → Option (TicketData × List UInt8)
  | 0, _ => none
  | fuel + 1, input => do
    let (id, input) ← readBytes 2 input
    let (len, input) ← readBytes 2 input
    let (contents, rest) ← readBytes (ofBe len) input
    if ofBe id / 256 = 0x30 then do
      let sdata ← readNodes fuel contents
      some (.blob (.ofNat (ofBe id)) sdata, rest)
    else do
      let d ← leaf (ofBe id) contents
      some (d, rest)

def readNodes : Nat → List UInt8 → Option (List TicketData)
  | 0, input => if input = [] then some [] else none
  | fuel + 1, input =>
    if input = [] then some [] else do
      let (x, rest) ← readNode fuel input
      let xs ← readNodes fuel rest
      some (x :: xs)

end

theorem toNat_blob_id (id : UInt8) (sdata : List TicketData) :
    (TicketData.blob id sdata).id.toNat = 0x3000 + id.toNat := by
  have hid := id.toNat_lt
  rw [TicketData.id, UInt16.toNat_or, UInt8.toNat_toUInt16]
  have hor := Nat.two_pow_add_eq_or_of_lt (i := 8) hid 0x30
  exact hor.symm

theorem leaf_contents {d : TicketData} (h : ∀ id sdata, d ≠ .blob id sdata) :
    leaf d.id.toNat d.contents = some d := by
  cases d with
  | empty => rfl
  | u32 value =>
    have hback : UInt32.ofNat (ofBe (beBytes 4 value.toNat)) = value := by
      rw [ofBe_beBytes value.toNat_lt, UInt32.ofNat_toNat]
    show (if (beBytes 4 value.toNat).length = 4 then
      some (TicketData.u32 (.ofNat (ofBe (beBytes 4 value.toNat)))) else none) = _
    rw [if_pos (length_beBytes _ _), hback]
  | u64 value =>
    have hback : UInt64.ofNat (ofBe (beBytes 8 value.toNat)) = value := by
      rw [ofBe_beBytes value.toNat_lt, UInt64.ofNat_toNat]
    show (if (beBytes 8 value.toNat).length = 8 then
      some (TicketData.u64 (.ofNat (ofBe (beBytes 8 value.toNat)))) else none) = _
    rw [if_pos (length_beBytes _ _), hback]
  | time value =>
    have hback : UInt64.ofNat (ofBe (beBytes 8 value.toNat)) = value := by
      rw [ofBe_beBytes value.toNat_lt, UInt64.ofNat_toNat]
    show (if (beBytes 8 value.toNat).length = 8 then
      some (TicketData.time (.ofNat (ofBe (beBytes 8 value.toNat)))) else none) = _
    rw [if_pos (length_beBytes _ _), hback]
  | binary bytes => rfl
  | bString bytes => rfl
  | blob id sdata => exact absurd rfl (h id sdata)

theorem readNode_header {d : TicketData} (h : d.contents.length ≤ 65535) (fuel : Nat)
    (rest : List UInt8) :
    readNode (fuel + 1) (d.write ++ rest) =
      if d.id.toNat / 256 = 0x30 then
        (readNodes fuel d.contents).map fun sdata => (.blob (.ofNat d.id.toNat) sdata, rest)
      else (leaf d.id.toNat d.contents).map fun e => (e, rest) := by
  have hid : ofBe (beBytes 2 d.id.toNat) = d.id.toNat := ofBe_beBytes d.id.toNat_lt
  have hlen : ofBe (beBytes 2 d.len.toNat) = d.contents.length := by
    rw [ofBe_beBytes d.len.toNat_lt, len_eq d h]
  have h₁ := readBytes_append (beBytes 2 d.id.toNat)
    (beBytes 2 d.len.toNat ++ (d.contents ++ rest))
  have h₂ := readBytes_append (beBytes 2 d.len.toNat) (d.contents ++ rest)
  rw [length_beBytes] at h₁ h₂
  rw [write_eq, header, List.append_assoc, List.append_assoc, readNode]
  simp only [h₁, h₂, hid, hlen, readBytes_append, Option.bind_eq_bind, Option.bind_some]
  split
  · cases readNodes fuel d.contents <;> rfl
  · cases leaf d.id.toNat d.contents <;> rfl

mutual

theorem readNode_write : ∀ (d : TicketData) (fuel : Nat) (rest : List UInt8),
    d.contents.length ≤ 65535 → d.contents.length ≤ fuel →
      readNode (fuel + 1) (d.write ++ rest) = some (d, rest)
  | .blob id sdata, fuel, rest, h, hfuel => by
      have hid := id.toNat_lt
      have hback : UInt8.ofNat (0x3000 + id.toNat) = id := by
        refine UInt8.toNat_inj.mp ?_
        rw [UInt8.toNat_ofNat']
        omega
      rw [readNode_header h, toNat_blob_id, if_pos (by omega), hback, contents]
      rw [contents] at h hfuel
      rw [readNodes_writeAll sdata fuel h hfuel]
      rfl
  | .empty, fuel, rest, h, _ | .u32 _, fuel, rest, h, _ | .u64 _, fuel, rest, h, _
  | .time _, fuel, rest, h, _ | .binary _, fuel, rest, h, _ | .bString _, fuel, rest, h, _ => by
      rw [readNode_header h, if_neg (by simp [TicketData.id]), leaf_contents (by simp)]
      rfl

theorem readNodes_writeAll : ∀ (xs : List TicketData) (fuel : Nat),
    (writeAll xs).length ≤ 65535 → (writeAll xs).length ≤ fuel →
      readNodes fuel (writeAll xs) = some xs
  | [], fuel, _, _ => by
      cases fuel <;> rw [writeAll, readNodes, if_pos rfl]
  | x :: xs, fuel, h, hfuel => by
      rw [length_writeAll_cons] at h hfuel
      -- the header of `x` pays for the two rounds
      obtain ⟨fuel, rfl⟩ : ∃ k, fuel = k + 2 := ⟨fuel - 2, by omega⟩
      have hx := readNode_write x fuel (writeAll xs) (by omega) (by omega)
      have hxs := readNodes_writeAll xs (fuel + 1) (by omega) (by omega)
      have hne : ¬ writeAll (x :: xs) = [] := by
        rw [← List.length_eq_zero_iff, length_writeAll_cons]
        omega
      rw [readNodes, if_neg hne, writeAll, hx]
      simp only [Option.bind_eq_bind, Option.bind_some, hxs]

end

end TicketData

/-! ## 4. Tickets -/

structure Ticket where
  data : List TicketData

def resize (bytes : List UInt8) (n : Nat) : List UInt8 := (bytes ++ List.replicate n 0).take n

theorem length_resize (bytes : List UInt8) (n : Nat) : (resize bytes n).length = n := by
  rw [resize, List.length_take, List.length_append, List.length_replicate]
  omega

/-- What the server adds to a request for a ticket: who asks, the number from the dispenser, the time
    in milliseconds, and the key, as the signature it makes of some bytes. -/
structure TicketSource where
  userId : UInt64
  npid : String
  ticketId : UInt64
  now : UInt64
  signInfo : Option (List UInt8 → Option (List UInt8))

namespace Ticket

/-- `sign_ticket`. Where there is no key, or signing fails, the signature is all zeros. -/
def signTicket (userBlob : TicketData) (signInfo : Option (List UInt8 → Option (List UInt8))) :
    TicketData :=
  match signInfo.bind fun sign => sign userBlob.write with
  | none => .blob 2 [.binary [0, 0, 0, 0], .binary (List.replicate 56 0)]
  | some signature => .blob 2 [.binary [0x52, 0x50, 0x43, 0x4E], .binary signature]

/-- The user data of `Ticket::new`. The sums of dates wrap, as in a release build. -/
def userData (src : TicketSource) (serviceId : String) (cookie : List UInt8) : List TicketData :=
  let issuedDate := src.now - 60 * 1000
  [.binary (resize (utf8 (Nat.repr src.ticketId.toNat)) 0x14),
    .u32 0x100,
    .time issuedDate,
    .time (issuedDate + 60 * 1000 * 15),
    .u64 src.userId,
    .bString (resize (utf8 src.npid) 0x20),
    .binary [0x62, 0x72, 0, 0],
    .bString [0x75, 0x6E, 0, 0],
    .binary (resize (utf8 serviceId) 0x18),
    .u32 0] ++ (if cookie = [] then [] else [.binary cookie]) ++ [.empty, .empty]

def userBlob (src : TicketSource) (serviceId : String) (cookie : List UInt8) : TicketData :=
  .blob 0 (userData src serviceId cookie)

def new (src : TicketSource) (serviceId : String) (cookie : List UInt8) : Ticket :=
  ⟨[userBlob src serviceId cookie, signTicket (userBlob src serviceId cookie) src.signInfo]⟩

/-- The size in `generate_blob`. The four bytes of a header are added in sixteen bits. -/
def size (t : Ticket) : UInt32 :=
  (t.data.map fun x => (x.len + 4).toUInt32).foldl (· + ·) 0

def generateBlob (t : Ticket) : List UInt8 :=
  beBytes 4 0x21010000 ++ beBytes 4 t.size.toNat ++ t.data.flatMap TicketData.write

theorem toNat_size {d e : TicketData} (hd : d.Fits) (he : e.Fits) :
    (Ticket.mk [d, e]).size.toNat = d.write.length % 65536 + e.write.length % 65536 := by
  rw [TicketData.fits_iff] at hd he
  have hfour : (4 : UInt16).toNat = 4 := rfl
  have hzero : (0 : UInt32).toNat = 0 := rfl
  have hsize : (Ticket.mk [d, e]).size = 0 + (d.len + 4).toUInt32 + (e.len + 4).toUInt32 := rfl
  rw [hsize, UInt32.toNat_add, UInt32.toNat_add, UInt16.toNat_toUInt32, UInt16.toNat_toUInt32,
    UInt16.toNat_add, UInt16.toNat_add, TicketData.len_eq d hd, TicketData.len_eq e he, hfour, hzero,
    TicketData.length_write, TicketData.length_write]
  omega

theorem toNat_size_eq_iff {d e : TicketData} (hd : d.Fits) (he : e.Fits) :
    (Ticket.mk [d, e]).size.toNat = d.write.length + e.write.length ↔
      d.write.length ≤ 65535 ∧ e.write.length ≤ 65535 := by
  rw [toNat_size hd he]
  omega

theorem generateBlob_eq_iff {d e : TicketData} (hd : d.Fits) (he : e.Fits) :
    (Ticket.mk [d, e]).generateBlob =
        beBytes 4 0x21010000 ++ beBytes 4 (d.write ++ e.write).length ++ (d.write ++ e.write) ↔
      d.write.length ≤ 65535 ∧ e.write.length ≤ 65535 := by
  have hdata : (Ticket.mk [d, e]).data.flatMap TicketData.write = d.write ++ e.write := by
    simp
  have hcontents := d.fits_iff.mp hd
  have hcontents' := e.fits_iff.mp he
  rw [← toNat_size_eq_iff hd he, generateBlob, hdata, List.append_left_inj, List.append_right_inj,
    List.length_append]
  constructor
  · intro h
    have hof := congrArg ofBe h
    rwa [ofBe_beBytes (UInt32.toNat_lt _), ofBe_beBytes] at hof
    rw [TicketData.length_write, TicketData.length_write]
    omega
  · intro h
    rw [h]

theorem length_userBlob (src : TicketSource) (serviceId : String) (cookie : List UInt8) :
    (userBlob src serviceId cookie).write.length =
      if cookie = [] then 168 else 172 + cookie.length := by
  rw [TicketData.length_write, userBlob, TicketData.contents, userData]
  split <;>
    simp only [List.cons_append, List.nil_append, TicketData.writeAll, List.length_append,
      TicketData.length_write, TicketData.contents, length_resize, length_beBytes, List.length_cons,
      List.length_nil]
  omega

theorem length_signTicket (userBlob : TicketData)
    (signInfo : Option (List UInt8 → Option (List UInt8))) :
    (signTicket userBlob signInfo).write.length =
      16 + ((signInfo.bind fun sign => sign userBlob.write).elim 56 List.length) := by
  unfold signTicket
  cases signInfo.bind fun sign => sign userBlob.write <;>
    simp only [TicketData.length_write, TicketData.writeAll, TicketData.contents,
      List.length_append, List.length_cons, List.length_nil, List.length_replicate, Option.elim]
  omega

end Ticket

/-- **The encoding of tickets is invertible.** For every tree whose nodes fit: the length of every
    node in it is the number of bytes written after its header, and the reader recovers the tree from
    its bytes, whatever follows them. For two such trees the blob of the ticket is the version, the
    number of bytes that follow and these bytes exactly if each tree takes 65535 bytes at most, its
    header included. -/
theorem ticket_encoding_invertible (d : TicketData) (hd : d.Fits) :
    (∀ n ∈ d.nodes, n.write.length = 4 + n.len.toNat) ∧
    (∀ rest, TicketData.readNode (d.write ++ rest).length (d.write ++ rest) = some (d, rest)) ∧
    ∀ e : TicketData, e.Fits →
      ((Ticket.mk [d, e]).generateBlob =
          beBytes 4 0x21010000 ++ beBytes 4 (d.write ++ e.write).length ++ (d.write ++ e.write) ↔
        d.write.length ≤ 65535 ∧ e.write.length ≤ 65535) := by
  refine ⟨?_, ?_, ?_⟩
  · exact d.lens_true_iff.mpr hd
  · intro rest
    have hd' := d.fits_iff.mp hd
    obtain ⟨fuel, hfuel⟩ : ∃ k, (d.write ++ rest).length = k + 1 :=
      ⟨(d.write ++ rest).length - 1, by rw [List.length_append, TicketData.length_write]; omega⟩
    rw [hfuel]
    refine TicketData.readNode_write d fuel rest hd' ?_
    rw [List.length_append, TicketData.length_write] at hfuel
    omega
  · intro e he
    exact Ticket.generateBlob_eq_iff hd he

theorem ticket_encoding_invertible_nested :
    TicketData.readNode
        ((TicketData.blob 0 [.u32 5, .blob 1 [.binary [1, 2]], .empty]).write ++ [9]).length
        ((TicketData.blob 0 [.u32 5, .blob 1 [.binary [1, 2]], .empty]).write ++ [9]) =
      some (.blob 0 [.u32 5, .blob 1 [.binary [1, 2]], .empty], [9]) :=
  (ticket_encoding_invertible (.blob 0 [.u32 5, .blob 1 [.binary [1, 2]], .empty])
    ((TicketData.fits_iff _).mpr (by decide +kernel))).2.1 [9]

/-- **The size wraps** for a ticket whose blobs fit: a cookie of 65364 bytes makes the first blob
    65536 bytes long, its header included, and the size says that 72 bytes follow. -/
theorem blob_size_wraps :
    ∃ (src : TicketSource) (cookie : List UInt8) (d e : TicketData),
      (Ticket.new src "A" cookie).data = [d, e] ∧ d.Fits ∧ e.Fits ∧
        (d.write ++ e.write).length = 65608 ∧ (Ticket.new src "A" cookie).size.toNat = 72 := by
  let src : TicketSource := ⟨1, "ada", 1, 0, none⟩
  let cookie : List UInt8 := List.replicate 65364 0
  have hcookie : cookie.length = 65364 := List.length_replicate
  have hne : cookie ≠ [] := by
    rw [← List.length_pos_iff, hcookie]
    decide
  have hd : (Ticket.userBlob src "A" cookie).write.length = 65536 := by
    rw [Ticket.length_userBlob, if_neg hne, hcookie]
  have he : (Ticket.signTicket (Ticket.userBlob src "A" cookie) src.signInfo).write.length = 72 :=
    Ticket.length_signTicket _ _
  have hdfits : (Ticket.userBlob src "A" cookie).Fits := by
    rw [TicketData.fits_iff_write, hd]
    decide
  have hefits : (Ticket.signTicket (Ticket.userBlob src "A" cookie) src.signInfo).Fits := by
    rw [TicketData.fits_iff_write, he]
    decide
  refine ⟨src, cookie, _, _, rfl, hdfits, hefits, ?_, ?_⟩
  · rw [List.length_append, hd, he]
  · rw [Ticket.new, Ticket.toNat_size hdfits hefits, hd, he]

end Rpcn
