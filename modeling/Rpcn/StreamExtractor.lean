/-
  File:      Rpcn/StreamExtractor.lean
  Subject:   THE PACKET EXTRACTOR (stream_extractor.rs), and that it reads exactly what was written.

  A handler takes the fields of a packet one after the other and looks at `error()` once, at the end.
  So a call may come after calls that failed, with the cursor anywhere: `get_string` even moves it
  past the end. Every index and every slice of the source is a panic of the model.
-/
import Rpcn.Lib.Bytes
import Rpcn.Lib.Call
import Rpcn.Np2Structs

namespace Rpcn

open Lib

structure StreamExtractor where
  vec : List UInt8
  i : Nat
  error : Bool
  deriving DecidableEq, Repr

inductive ExtractPanic where
  | indexOutOfRange
  | sliceOutOfRange
  deriving DecidableEq, Repr

abbrev ExtractCall := Call ErrorType ExtractPanic StreamExtractor

variable {s : StreamExtractor} {bytes : List UInt8}

namespace StreamExtractor

/-! ## 1. The calls -/

def new (vec : List UInt8) : StreamExtractor := ⟨vec, 0, false⟩

def setError : ExtractCall Unit := Call.modify fun s => { s with error := true }

def require (b : Bool) : ExtractCall Unit := if b then pure () else setError

def advance (n : Nat) : ExtractCall Unit := Call.modify fun s => { s with i := s.i + n }

def index (k : Nat) : ExtractCall UInt8 := do
  let s ← Call.read
  Call.unwrap s.vec[k]? .indexOutOfRange

def slice (lo hi : Nat) : ExtractCall (List UInt8) := do
  let s ← Call.read
  if lo ≤ hi ∧ hi ≤ s.vec.length then pure ((s.vec.drop lo).take (hi - lo))
  else Call.stop .sliceOutOfRange

/-- `get::<T>`, for an integer type of `size` bytes. -/
def get (size : Nat) : ExtractCall Nat := do
  let s ← Call.read
  if s.i + size > s.vec.length then do
    setError
    pure 0
  else do
    let bytes ← slice s.i (s.i + size)
    advance size
    pure (ofLe bytes)

/-- The loop of `get_string`, for at most `fuel` rounds. -/
def stringLoop : Nat → ExtractCall (List Char)
  | 0 => pure []
  | fuel + 1 => do
    let s ← Call.read
    if s.i < s.vec.length then do
      let b ← index s.i
      if b ≠ 0 then do
        advance 1
        let cs ← stringLoop fuel
        pure (Char.ofNat b.toNat :: cs)
      else pure []
    else pure []

/-- `get_string`. A round of its loop takes one byte, so the bytes left are rounds enough. -/
def getString (empty : Bool) : ExtractCall String := do
  let s ← Call.read
  let resS ← stringLoop (s.vec.length - s.i)
  advance 1
  let s ← Call.read
  if s.i > s.vec.length ∨ (¬ empty ∧ resS = []) then do
    setError
    pure (.ofList resS)
  else pure (.ofList resS)

def getRawdata : ExtractCall (List UInt8) := do
  let size ← get 4
  let s ← Call.read
  if size + s.i > s.vec.length then do
    setError
    pure []
  else do
    let bytes ← slice s.i (s.i + size)
    advance size
    pure bytes

/-- The loop of `get_com_id`: `n` bytes, one after the other. -/
def getBytes : Nat → ExtractCall (List UInt8)
  | 0 => pure []
  | n + 1 => do
    let c ← get 1
    let cs ← getBytes n
    pure (UInt8.ofNat c :: cs)

def isAsciiUppercase (b : UInt8) : Bool := 0x41 ≤ b && b ≤ 0x5A

def isAsciiDigit (b : UInt8) : Bool := 0x30 ≤ b && b ≤ 0x39

/-- The three checks of `get_com_id`, on the bytes of the id. -/
def isComId (bytes : List UInt8) : Bool :=
  (bytes.take 9).all (fun c => isAsciiUppercase c || isAsciiDigit c) && bytes[9]? = some 0x5F &&
    (bytes.drop 10).all isAsciiDigit

/-- `get_com_id`. Too short a packet leaves an id of zeros, which no check passes. -/
def getComId : ExtractCall ComId := do
  let s ← Call.read
  let comId : ComId ←
    if s.i + 12 > s.vec.length then do
      setError
      pure (Vector.replicate 12 0)
    else do
      let bytes ← getBytes 12
      pure (Vector.ofFn fun j => bytes.getD j 0)
  require ((comId.toList.take 9).all fun c => isAsciiUppercase c || isAsciiDigit c)
  require (comId[9] = 0x5F)
  require ((comId.toList.drop 10).all isAsciiDigit)
  pure comId

/-- `get_protobuf`, for the messages that `decode` reads. -/
def getProtobuf {Msg : Type} (decode : List UInt8 → Option Msg) : ExtractCall (Option Msg) := do
  let size ← get 4
  let s ← Call.read
  if size + s.i > s.vec.length then do
    setError
    pure none
  else do
    let bytes ← slice s.i (s.i + size)
    advance size
    pure (decode bytes)

/-! ## 2. The bytes ahead -/

def ahead (s : StreamExtractor) : List UInt8 := s.vec.drop s.i

def next (s : StreamExtractor) (n : Nat) : List UInt8 := s.ahead.take n

def past (s : StreamExtractor) (n : Nat) : StreamExtractor := { s with i := s.i + n }

def failed (s : StreamExtractor) : StreamExtractor := { s with error := true }

section Ahead

variable {s : StreamExtractor} {n : Nat} {bytes : List UInt8}

theorem length_next (h : s.i + n ≤ s.vec.length) : (s.next n).length = n := by
  rw [next, ahead, List.length_take, List.length_drop]
  omega

theorem next_ahead (s : StreamExtractor) (n : Nat) : s.next n <+: s.ahead :=
  List.take_prefix n s.ahead

theorem next_of_ahead (h : bytes <+: s.ahead) : s.next bytes.length = bytes :=
  (List.prefix_iff_eq_take.mp h).symm

theorem fits (h : bytes <+: s.ahead) (hne : bytes ≠ []) : s.i + bytes.length ≤ s.vec.length := by
  have hlen := h.length_le
  have hpos := List.length_pos_iff.mpr hne
  rw [ahead, List.length_drop] at hlen
  omega

theorem ahead_past (s : StreamExtractor) (n : Nat) : (s.past n).ahead = s.ahead.drop n :=
  List.drop_drop.symm

theorem append_ahead {bytes' : List UInt8} :
    bytes ++ bytes' <+: s.ahead ↔ bytes <+: s.ahead ∧ bytes' <+: (s.past bytes.length).ahead := by
  rw [ahead_past]
  constructor
  · rintro ⟨rest, hrest⟩
    rw [List.append_assoc] at hrest
    rw [← hrest, List.drop_left]
    exact ⟨List.prefix_append _ _, List.prefix_append _ _⟩
  · rintro ⟨⟨rest, hrest⟩, h⟩
    rw [← hrest, List.drop_left] at h
    rw [← hrest]
    exact List.prefix_append_right_inj bytes |>.mpr h

end Ahead

/-! ## 3. What each call does -/

theorem slice_run {n : Nat} (h : s.i + n ≤ s.vec.length) :
    slice s.i (s.i + n) s = (.ok (s.next n), s) := by
  unfold slice
  rw [Call.read_bind_run, if_pos ⟨by omega, h⟩, Nat.add_sub_cancel_left]
  rfl

theorem get_failed {size : Nat} (h : s.vec.length < s.i + size) :
    get size s = (.ok 0, s.failed) := by
  unfold get
  rw [Call.read_bind_run, if_pos h]
  rfl

theorem get_past {size : Nat} (h : s.i + size ≤ s.vec.length) :
    get size s = (.ok (ofLe (s.next size)), s.past size) := by
  unfold get
  rw [Call.read_bind_run, if_neg (by omega), Call.bind_ok (slice_run h)]
  rfl

theorem get_encoded {size n : Nat} (hsize : 0 < size) (hn : n < 256 ^ size)
    (h : leBytes size n <+: s.ahead) : get size s = (.ok n, s.past size) := by
  have hlen := length_leBytes size n
  have hfits := fits h (by rw [← List.length_pos_iff]; omega)
  have hnext := next_of_ahead h
  rw [hlen] at hfits hnext
  rw [get_past hfits, hnext, ofLe_leBytes size n hn]

/-! ### Strings -/

/-- The bytes before the next zero, or to the end of the packet. -/
def text (s : StreamExtractor) : List UInt8 := s.ahead.takeWhile (· ≠ 0)

/-- `byte as char`, byte by byte. -/
def chars (bytes : List UInt8) : List Char := bytes.map fun b => Char.ofNat b.toNat

theorem text_of_le (h : s.vec.length ≤ s.i) : s.text = [] := by
  rw [text, ahead, List.drop_eq_nil_of_le h]
  rfl

theorem text_of_lt (h : s.i < s.vec.length) :
    s.text = if s.vec[s.i] ≠ 0 then s.vec[s.i] :: (s.past 1).text else [] := by
  rw [text, ahead, List.drop_eq_getElem_cons h, List.takeWhile_cons]
  by_cases hb : s.vec[s.i] = 0
  · simp [hb]
  · simp [hb, text, ahead, past]

theorem stringLoop_run : ∀ (fuel : Nat) (s : StreamExtractor), s.vec.length ≤ s.i + fuel →
    stringLoop fuel s = (.ok (chars s.text), s.past s.text.length)
  | 0, s, h => by
      rw [text_of_le (by omega)]
      rfl
  | fuel + 1, s, h => by
      rw [stringLoop, Call.read_bind_run]
      by_cases hi : s.i < s.vec.length
      · have hindex : index s.i s = (.ok s.vec[s.i], s) := by
          unfold index
          rw [Call.read_bind_run, List.getElem?_eq_getElem hi, Call.unwrap_some]
        rw [if_pos hi, Call.bind_ok hindex, text_of_lt hi]
        by_cases hb : s.vec[s.i] ≠ 0
        · have hloop := stringLoop_run fuel (s.past 1) (by simp only [past]; omega)
          rw [if_pos hb, if_pos hb, Call.bind_ok (show advance 1 s = (.ok (), s.past 1) from rfl),
            Call.bind_ok hloop, Call.pure_run]
          simp only [chars, List.map_cons, past, List.length_cons]
          rw [Nat.add_assoc, Nat.add_comm 1]
        · rw [if_neg hb, if_neg hb]
          rfl
      · rw [if_neg hi, text_of_le (by omega)]
        rfl

theorem getString_run (empty : Bool) (s : StreamExtractor) :
    getString empty s = (.ok (.ofList (chars s.text)),
      if s.vec.length < s.i + s.text.length + 1 ∨ (¬ empty ∧ s.text = []) then
        (s.past (s.text.length + 1)).failed else s.past (s.text.length + 1)) := by
  have hchars : chars s.text = [] ↔ s.text = [] := List.map_eq_nil_iff
  have hpast : (s.past s.text.length).past 1 = s.past (s.text.length + 1) := by
    simp only [past, Nat.add_assoc]
  unfold getString
  rw [Call.read_bind_run, Call.bind_ok (stringLoop_run _ s (by omega)),
    Call.bind_ok (show advance 1 (s.past s.text.length) = (.ok (), s.past (s.text.length + 1)) from
      congrArg _ hpast), Call.read_bind_run]
  simp only [hchars]
  have hi : (s.past (s.text.length + 1)).i > (s.past (s.text.length + 1)).vec.length ↔
      s.vec.length < s.i + s.text.length + 1 := Iff.rfl
  simp only [hi]
  split
  · rfl
  · rfl

theorem zero_notMem_text (s : StreamExtractor) : 0 ∉ s.text := by
  intro h
  have hne := List.all_eq_true.mp List.all_takeWhile 0 h
  simp at hne

theorem text_ahead (h : s.i + s.text.length + 1 ≤ s.vec.length) : s.text ++ [0] <+: s.ahead := by
  have hsplit : s.text ++ s.ahead.dropWhile (· ≠ 0) = s.ahead := List.takeWhile_append_dropWhile
  cases hrest : s.ahead.dropWhile (· ≠ 0) with
  | nil =>
    have hlen := congrArg List.length hsplit
    rw [hrest, List.append_nil, ahead, List.length_drop] at hlen
    omega
  | cons b rest =>
    have hb : b = 0 := by
      have hhead := List.head_dropWhile_not (fun x : UInt8 => decide (x ≠ 0)) (l := s.ahead)
        (by rw [hrest]; exact List.cons_ne_nil b rest)
      simp only [hrest, List.head_cons, decide_eq_false_iff_not, not_not] at hhead
      exact hhead
    rw [hrest, hb] at hsplit
    exact ⟨rest, by rw [List.append_assoc]; exact hsplit⟩

theorem text_of_ahead (hz : 0 ∉ bytes) (h : bytes ++ [0] <+: s.ahead) : s.text = bytes := by
  obtain ⟨rest, hrest⟩ := h
  have hall : ∀ b ∈ bytes, decide (b ≠ 0) = true := by
    intro b hb
    rw [decide_eq_true_iff]
    intro e
    exact hz (e ▸ hb)
  rw [text, ← hrest, List.append_assoc, List.takeWhile_append_of_pos hall]
  simp

/-! ### Sized fields -/

/-- The size of a field, then the field: `get_rawdata` and `get_protobuf` up to what they make of
    the bytes. -/
def sized {α : Type} (missing : α) (make : List UInt8 → α) : ExtractCall α := do
  let size ← get 4
  let s ← Call.read
  if size + s.i > s.vec.length then do
    setError
    pure missing
  else do
    let bytes ← slice s.i (s.i + size)
    advance size
    pure (make bytes)

theorem getRawdata_eq : getRawdata = sized [] id := rfl

theorem getProtobuf_eq {Msg : Type} (decode : List UInt8 → Option Msg) :
    getProtobuf decode = sized none decode := rfl

section Sized

variable {α : Type} (missing : α) (make : List UInt8 → α)

theorem sized_encoded (hlt : bytes.length < 2 ^ 32)
    (h : leBytes 4 bytes.length ++ bytes <+: s.ahead) :
    sized missing make s = (.ok (make bytes), s.past (4 + bytes.length)) := by
  have hfits := fits h (by rw [← List.length_pos_iff, List.length_append, length_leBytes]; omega)
  obtain ⟨hsize, hbytes⟩ := append_ahead.mp h
  rw [List.length_append, length_leBytes] at hfits
  rw [length_leBytes] at hbytes
  have hslice : (s.past 4).i + bytes.length ≤ (s.past 4).vec.length := by
    simp only [past]
    omega
  have hfit : ¬ bytes.length + (s.past 4).i > (s.past 4).vec.length := by omega
  unfold sized
  rw [Call.bind_ok (get_encoded (by omega) hlt hsize), Call.read_bind_run, if_neg hfit,
    Call.bind_ok (slice_run hslice), next_of_ahead hbytes]
  simp only [past, ← Nat.add_assoc]
  rfl

variable (s : StreamExtractor)

theorem sized_cases :
    (∃ bytes, bytes.length < 2 ^ 32 ∧ leBytes 4 bytes.length ++ bytes <+: s.ahead) ∨
    ∃ v s', sized missing make s = (.ok v, s') ∧ s'.vec = s.vec ∧ s'.error = true := by
  by_cases h : s.i + 4 ≤ s.vec.length
  · have hget := get_past h
    have hlt := ofLe_lt (s.next 4)
    have hsize := leBytes_ofLe (s.next 4)
    rw [length_next h] at hlt hsize
    generalize ofLe (s.next 4) = n at hget hlt hsize
    by_cases hfit : n + (s.past 4).i > (s.past 4).vec.length
    · refine Or.inr ⟨missing, (s.past 4).failed, ?_, rfl, rfl⟩
      unfold sized
      rw [Call.bind_ok hget, Call.read_bind_run, if_pos hfit]
      rfl
    · have hlen : ((s.past 4).next n).length = n := length_next (by omega)
      refine Or.inl ⟨(s.past 4).next n, by rw [hlen]; exact hlt, ?_⟩
      rw [hlen, append_ahead, length_leBytes, hsize]
      exact ⟨next_ahead s 4, next_ahead (s.past 4) n⟩
  · -- the size cannot be read: it counts as zero, and the error stays
    refine Or.inr ?_
    unfold sized
    rw [Call.bind_ok (get_failed (by omega)), Call.read_bind_run]
    split
    · exact ⟨missing, s.failed.failed, rfl, rfl, rfl⟩
    · have hslice : s.failed.i + 0 ≤ s.failed.vec.length := by omega
      rw [Call.bind_ok (slice_run hslice)]
      exact ⟨_, s.failed.past 0, rfl, rfl, rfl⟩

theorem sized_returns : ∃ v s', sized missing make s = (.ok v, s') := by
  rcases sized_cases missing make s with ⟨bytes, hlt, h⟩ | ⟨v, s', h, -⟩
  · exact ⟨_, _, sized_encoded missing make hlt h⟩
  · exact ⟨v, s', h⟩

end Sized

/-! ### Com ids -/

theorem getBytes_run : ∀ (n : Nat) (s : StreamExtractor), s.i + n ≤ s.vec.length →
    getBytes n s = (.ok (s.next n), s.past n)
  | 0, s, _ => by
      rw [next, List.take_zero]
      rfl
  | n + 1, s, h => by
      have hrest := getBytes_run n (s.past 1) (by simp only [past]; omega)
      have hlt : s.i < s.vec.length := by omega
      have hcons : s.ahead = s.vec[s.i] :: (s.past 1).ahead := List.drop_eq_getElem_cons hlt
      have hone : UInt8.ofNat (ofLe (s.next 1)) = s.vec[s.i] := by
        rw [next, hcons, List.take_succ_cons, List.take_zero, ofLe, ofLe, Nat.mul_zero, Nat.add_zero,
          UInt8.ofNat_toNat]
      rw [getBytes, Call.bind_ok (get_past (by omega)), Call.bind_ok hrest, Call.pure_run, hone,
        next, next, hcons, List.take_succ_cons]
      simp only [past, Nat.add_assoc, Nat.add_comm 1]

theorem require_run (b : Bool) (s : StreamExtractor) :
    require b s = (.ok (), if b then s else s.failed) := by
  cases b <;> rfl

def checked (comId : ComId) : ExtractCall ComId := do
  require ((comId.toList.take 9).all fun c => isAsciiUppercase c || isAsciiDigit c)
  require (comId[9] = 0x5F)
  require ((comId.toList.drop 10).all isAsciiDigit)
  pure comId

theorem checked_run (comId : ComId) (s : StreamExtractor) :
    checked comId s = (.ok comId, if isComId comId.toList then s else s.failed) := by
  have hnine : comId.toList[9]? = some comId[9] := by simp
  unfold checked isComId
  rw [hnine, Call.bind_ok (require_run _ _), Call.bind_ok (require_run _ _),
    Call.bind_ok (require_run _ _), Call.pure_run]
  simp only [Option.some_inj]
  generalize (comId.toList.take 9).all (fun c => isAsciiUppercase c || isAsciiDigit c) = b₁
  generalize decide (comId[9] = 0x5F) = b₂
  generalize (comId.toList.drop 10).all isAsciiDigit = b₃
  cases b₁ <;> cases b₂ <;> cases b₃ <;> rfl

theorem getComId_short (h : s.vec.length < s.i + 12) :
    getComId s = (.ok (Vector.replicate 12 0), s.failed) := by
  unfold getComId
  rw [Call.read_bind_run, if_pos h]
  exact checked_run (Vector.replicate 12 0) s.failed

theorem getComId_run (h : s.i + 12 ≤ s.vec.length) :
    ∃ comId : ComId, comId.toList = s.next 12 ∧
      getComId s = (.ok comId, if isComId comId.toList then s.past 12 else (s.past 12).failed) := by
  have hlen := length_next h
  refine ⟨Vector.ofFn fun j : Fin 12 => (s.next 12).getD j 0, ?_, ?_⟩
  · refine List.ext_getElem (by simp [hlen]) fun j hj hj' => ?_
    simp [List.getElem?_eq_getElem hj']
  · unfold getComId
    rw [Call.read_bind_run, if_neg (by omega), Call.bind_ok (getBytes_run 12 s h)]
    exact checked_run _ _

theorem getComId_returns (s : StreamExtractor) : ∃ comId s', getComId s = (.ok comId, s') := by
  by_cases h : s.i + 12 ≤ s.vec.length
  · obtain ⟨comId, -, hrun⟩ := getComId_run h
    exact ⟨comId, _, hrun⟩
  · exact ⟨_, _, getComId_short (by omega)⟩

end StreamExtractor

/-! ## 4. Values and their bytes -/

inductive IntType where
  | u8
  | u16
  | u32
  | u64
  deriving DecidableEq, Repr

def IntType.size : IntType → Nat
  | .u8 => 1
  | .u16 => 2
  | .u32 => 4
  | .u64 => 8

inductive ExtractOp (Tag : Type) where
  | get (t : IntType)
  | getString (empty : Bool)
  | getRawdata
  | getComId
  | getProtobuf (tag : Tag)
  deriving DecidableEq, Repr

inductive ExtractVal (Msg : Type) where
  | int (n : Nat)
  | str (s : String)
  | raw (bytes : List UInt8)
  | comId (comId : ComId)
  | proto (m : Option Msg)
  deriving DecidableEq, Repr

def ExtractVal.isErr {Msg : Type} : ExtractVal Msg → Bool
  | .proto none => true
  | _ => false

section Sequences

variable {Tag Msg : Type} (decode : Tag → List UInt8 → Option Msg)

open StreamExtractor

def ExtractOp.call : ExtractOp Tag → ExtractCall (ExtractVal Msg)
  | .get t => Call.mapOk .int (StreamExtractor.get t.size)
  | .getString empty => Call.mapOk .str (StreamExtractor.getString empty)
  | .getRawdata => Call.mapOk .raw StreamExtractor.getRawdata
  | .getComId => Call.mapOk .comId StreamExtractor.getComId
  | .getProtobuf tag => Call.mapOk .proto (StreamExtractor.getProtobuf (decode tag))

/-- **The bytes of a value**: little-endian integers, one byte a character and a zero, a `u32`
    length and the bytes, or the twelve bytes of a com id. -/
inductive Encodes : ExtractOp Tag → ExtractVal Msg → List UInt8 → Prop where
  | int {t : IntType} {n : Nat} (h : n < 256 ^ t.size) :
      Encodes (.get t) (.int n) (leBytes t.size n)
  | str {empty : Bool} {s : String} (hs : ∀ c ∈ s.toList, 0 < c.toNat ∧ c.toNat < 256)
      (hne : empty = true ∨ s ≠ "") :
      Encodes (.getString empty) (.str s) (s.toList.map (fun c => UInt8.ofNat c.toNat) ++ [0])
  | raw {bytes : List UInt8} (h : bytes.length < 2 ^ 32) :
      Encodes .getRawdata (.raw bytes) (leBytes 4 bytes.length ++ bytes)
  | comId {comId : ComId} (h : isComId comId.toList) :
      Encodes .getComId (.comId comId) comId.toList
  | proto {tag : Tag} {bytes : List UInt8} {m : Msg} (h : bytes.length < 2 ^ 32)
      (hm : decode tag bytes = some m) :
      Encodes (.getProtobuf tag) (.proto (some m)) (leBytes 4 bytes.length ++ bytes)

variable {decode}

theorem Encodes.ne_nil {op : ExtractOp Tag} {v : ExtractVal Msg} {bytes : List UInt8}
    (h : Encodes decode op v bytes) : bytes ≠ [] := by
  rw [← List.length_pos_iff]
  cases h with
  | @int t n h => cases t <;> simp [IntType.size]
  | str hs hne => simp
  | raw h =>
    rw [List.length_append, length_leBytes]
    omega
  | comId h => simp
  | proto h hm =>
    rw [List.length_append, length_leBytes]
    omega

theorem toNat_char (b : UInt8) : (Char.ofNat b.toNat).toNat = b.toNat := by
  have hvalid : b.toNat.isValidChar := Or.inl (by have := b.toNat_lt; omega)
  unfold Char.ofNat
  rw [dif_pos hvalid]
  rfl

theorem chars_of_bytes (bytes : List UInt8) :
    (chars bytes).map (fun c => UInt8.ofNat c.toNat) = bytes := by
  rw [chars, List.map_map]
  refine (List.map_congr_left fun b _ => ?_).trans (List.map_id bytes)
  rw [Function.comp_apply, toNat_char, UInt8.ofNat_toNat, id_eq]

theorem mem_chars_text {c : Char} (h : c ∈ chars s.text) : 0 < c.toNat ∧ c.toNat < 256 := by
  obtain ⟨b, hb, rfl⟩ := List.mem_map.mp h
  rw [toNat_char]
  refine ⟨Nat.pos_of_ne_zero fun hz => ?_, b.toNat_lt⟩
  have hzero : b = 0 := UInt8.toNat_inj.mp hz
  exact zero_notMem_text s (hzero ▸ hb)

theorem bytes_of_chars {cs : List Char} (h : ∀ c ∈ cs, 0 < c.toNat ∧ c.toNat < 256) :
    chars (cs.map fun c => UInt8.ofNat c.toNat) = cs ∧
      0 ∉ cs.map fun c => UInt8.ofNat c.toNat := by
  have hto : ∀ c ∈ cs, (UInt8.ofNat c.toNat).toNat = c.toNat := by
    intro c hc
    have := h c hc
    rw [UInt8.toNat_ofNat']
    omega
  refine ⟨?_, ?_⟩
  · rw [chars, List.map_map]
    refine (List.map_congr_left fun c hc => ?_).trans (List.map_id cs)
    rw [Function.comp_apply, hto c hc, Char.ofNat_toNat, id_eq]
  · intro hmem
    obtain ⟨c, hc, he⟩ := List.mem_map.mp hmem
    have hpos := (h c hc).1
    have hzero := hto c hc
    rw [he] at hzero
    rw [← hzero] at hpos
    exact absurd hpos (by decide)

theorem call_encoded {op : ExtractOp Tag} {v : ExtractVal Msg} {bytes : List UInt8}
    {s : StreamExtractor} (h : Encodes decode op v bytes) (hp : bytes <+: s.ahead) :
    op.call decode s = (.ok v, s.past bytes.length) := by
  have hfits := fits hp h.ne_nil
  cases h with
  | @int t n hn =>
    have hsize : 0 < t.size := by cases t <;> decide
    rw [ExtractOp.call, Call.mapOk, get_encoded hsize hn hp, length_leBytes]
  | @str empty str hs hne =>
    obtain ⟨hchars, hz⟩ := bytes_of_chars hs
    have htext := text_of_ahead hz hp
    rw [List.length_append, List.length_singleton] at hfits
    have hok : ¬ (s.vec.length < s.i + s.text.length + 1 ∨ (¬ empty = true ∧ s.text = [])) := by
      rw [htext]
      rintro (hlt | ⟨he, hnil⟩)
      · omega
      · rcases hne with hne | hne
        · exact he hne
        · exact hne (String.toList_eq_nil_iff.mp (List.map_eq_nil_iff.mp hnil))
    rw [ExtractOp.call, Call.mapOk, getString_run, if_neg hok, htext, hchars, String.ofList_toList,
      List.length_append, List.length_singleton]
  | raw hlt =>
    rw [ExtractOp.call, Call.mapOk, getRawdata_eq, sized_encoded _ _ hlt hp, List.length_append,
      length_leBytes]
    rfl
  | @comId comId hc =>
    have hlen : comId.toList.length = 12 := by simp
    rw [hlen] at hfits ⊢
    obtain ⟨comId', hnext, hrun⟩ := getComId_run hfits
    have heq : comId' = comId := by
      have hn := next_of_ahead hp
      rw [hlen, ← hnext] at hn
      exact Vector.toList_inj.mp hn
    rw [heq, if_pos hc] at hrun
    rw [ExtractOp.call, Call.mapOk, hrun]
  | @proto tag bytes m hlt hm =>
    rw [ExtractOp.call, Call.mapOk, getProtobuf_eq, sized_encoded _ _ hlt hp, hm,
      List.length_append, length_leBytes]

theorem call_cases (decode : Tag → List UInt8 → Option Msg) (op : ExtractOp Tag)
    (s : StreamExtractor) :
    (∃ v bytes, Encodes decode op v bytes ∧ bytes <+: s.ahead) ∨
    ∃ v s', op.call decode s = (.ok v, s') ∧ s'.vec = s.vec ∧
      (s'.error = true ∨ v.isErr = true ∧ s'.error = s.error) := by
  cases op with
  | get t =>
    by_cases h : s.i + t.size ≤ s.vec.length
    · have hlt := ofLe_lt (s.next t.size)
      have hback := leBytes_ofLe (s.next t.size)
      rw [length_next h] at hlt hback
      refine Or.inl ⟨_, _, .int hlt, ?_⟩
      rw [hback]
      exact next_ahead s t.size
    · refine Or.inr ⟨.int 0, s.failed, ?_, rfl, Or.inl rfl⟩
      rw [ExtractOp.call, Call.mapOk, get_failed (by omega)]
  | getString empty =>
    by_cases h : s.vec.length < s.i + s.text.length + 1 ∨ (¬ empty = true ∧ s.text = [])
    · refine Or.inr ⟨.str (.ofList (chars s.text)), (s.past (s.text.length + 1)).failed, ?_, rfl,
        Or.inl rfl⟩
      rw [ExtractOp.call, Call.mapOk, getString_run, if_pos h]
    · rw [not_or, not_and_or, not_not] at h
      refine Or.inl ⟨.str (.ofList (chars s.text)), s.text ++ [0], ?_, text_ahead (by omega)⟩
      have hbytes := chars_of_bytes s.text
      have henc : Encodes decode (.getString empty) (.str (.ofList (chars s.text)))
          ((String.ofList (chars s.text)).toList.map (fun c => UInt8.ofNat c.toNat) ++ [0]) := by
        refine .str (fun c hc => ?_) (h.2.imp_right fun hne he => hne ?_)
        · rw [String.toList_ofList] at hc
          exact mem_chars_text hc
        · have hnil := congrArg String.toList he
          rw [String.toList_ofList] at hnil
          exact List.map_eq_nil_iff.mp hnil
      rwa [String.toList_ofList, hbytes] at henc
  | getRawdata =>
    rcases sized_cases [] id s with ⟨bytes, hlt, hp⟩ | ⟨v, s', hrun, hvec, herr⟩
    · exact Or.inl ⟨_, _, .raw hlt, hp⟩
    · refine Or.inr ⟨.raw v, s', ?_, hvec, Or.inl herr⟩
      rw [ExtractOp.call, Call.mapOk, getRawdata_eq, hrun]
  | getComId =>
    by_cases h : s.i + 12 ≤ s.vec.length
    · obtain ⟨comId, hnext, hrun⟩ := getComId_run h
      by_cases hc : isComId comId.toList
      · exact Or.inl ⟨_, _, .comId hc, hnext ▸ next_ahead s 12⟩
      · rw [if_neg hc] at hrun
        refine Or.inr ⟨.comId comId, (s.past 12).failed, ?_, rfl, Or.inl rfl⟩
        rw [ExtractOp.call, Call.mapOk, hrun]
    · refine Or.inr ⟨.comId (Vector.replicate 12 0), s.failed, ?_, rfl, Or.inl rfl⟩
      rw [ExtractOp.call, Call.mapOk, getComId_short (by omega)]
  | getProtobuf tag =>
    rcases sized_cases none (decode tag) s with ⟨bytes, hlt, hp⟩ | ⟨v, s', hrun, hvec, herr⟩
    · cases hm : decode tag bytes with
      | some m => exact Or.inl ⟨_, _, .proto hlt hm, hp⟩
      | none =>
        refine Or.inr ⟨.proto none, s.past (4 + bytes.length), ?_, rfl, Or.inr ⟨rfl, rfl⟩⟩
        rw [ExtractOp.call, Call.mapOk, getProtobuf_eq, sized_encoded _ _ hlt hp, hm]
    · refine Or.inr ⟨.proto v, s', ?_, hvec, Or.inl herr⟩
      rw [ExtractOp.call, Call.mapOk, getProtobuf_eq, hrun]

/-! ## 5. Sequences of calls -/

variable (decode)

def ExtractOp.calls : List (ExtractOp Tag) → ExtractCall (List (ExtractVal Msg))
  | [] => pure []
  | op :: ops => do
    let v ← op.call decode
    let vs ← calls ops
    pure (v :: vs)

inductive EncodesAll : List (ExtractOp Tag) → List (ExtractVal Msg) → List UInt8 → Prop where
  | nil : EncodesAll [] [] []
  | cons {op : ExtractOp Tag} {ops : List (ExtractOp Tag)} {v : ExtractVal Msg}
      {vs : List (ExtractVal Msg)} {bytes bytes' : List UInt8} (h : Encodes decode op v bytes)
      (hs : EncodesAll ops vs bytes') : EncodesAll (op :: ops) (v :: vs) (bytes ++ bytes')

variable {decode}

theorem past_past (s : StreamExtractor) (m n : Nat) : (s.past m).past n = s.past (m + n) := by
  simp only [past, Nat.add_assoc]

theorem calls_encoded {ops : List (ExtractOp Tag)} {vs : List (ExtractVal Msg)}
    (h : EncodesAll decode ops vs bytes) :
    ∀ {s : StreamExtractor}, bytes <+: s.ahead →
      ExtractOp.calls decode ops s = (.ok vs, s.past bytes.length) := by
  induction h with
  | nil => intro s _; rfl
  | cons h _ ih =>
    intro s hp
    obtain ⟨hp, hps⟩ := append_ahead.mp hp
    rw [ExtractOp.calls, Call.bind_ok (call_encoded h hp), Call.bind_ok (ih hps), Call.pure_run,
      past_past, List.length_append]

structure Extracted (decode : Tag → List UInt8 → Option Msg) (ops : List (ExtractOp Tag))
    (s : StreamExtractor) (vs : List (ExtractVal Msg)) (s' : StreamExtractor) : Prop where
  vec : s'.vec = s.vec
  sticky : s.error = true → s'.error = true
  exact : s'.error = false → (∀ v ∈ vs, v.isErr = false) →
    ∃ bytes, EncodesAll decode ops vs bytes ∧ bytes <+: s.ahead ∧ s' = s.past bytes.length

theorem calls_extracted (decode : Tag → List UInt8 → Option Msg) :
    ∀ (ops : List (ExtractOp Tag)) (s : StreamExtractor),
    ∃ vs s', ExtractOp.calls decode ops s = (.ok vs, s') ∧ Extracted decode ops s vs s'
  | [], s => ⟨[], s, rfl, rfl, id, fun _ _ => ⟨[], .nil, List.nil_prefix, rfl⟩⟩
  | op :: ops, s => by
      rcases call_cases decode op s with ⟨v, bytes, henc, hp⟩ | ⟨v, s₁, hrun, hvec, herr⟩
      · obtain ⟨vs, s', hs, hx⟩ := calls_extracted decode ops (s.past bytes.length)
        refine ⟨v :: vs, s', ?_, hx.vec, hx.sticky, ?_⟩
        · rw [ExtractOp.calls, Call.bind_ok (call_encoded henc hp), Call.bind_ok hs, Call.pure_run]
        · intro hok hall
          obtain ⟨bytes', henc', hp', rfl⟩ :=
            hx.exact hok fun v hv => hall v (List.mem_cons_of_mem _ hv)
          refine ⟨bytes ++ bytes', .cons henc henc', append_ahead.mpr ⟨hp, hp'⟩, ?_⟩
          rw [past_past, List.length_append]
      · obtain ⟨vs, s', hs, hx⟩ := calls_extracted decode ops s₁
        refine ⟨v :: vs, s', ?_, hx.vec.trans hvec, ?_, ?_⟩
        · rw [ExtractOp.calls, Call.bind_ok hrun, Call.bind_ok hs, Call.pure_run]
        · intro he
          refine hx.sticky (herr.elim id fun h => ?_)
          rw [h.2, he]
        · -- the call has set the error, which stays, or has returned `Err`
          intro hok hall
          exfalso
          rcases herr with herr | ⟨herr, -⟩
          · rw [hx.sticky herr] at hok
            cases hok
          · rw [hall v List.mem_cons_self] at herr
            cases herr

theorem calls_append (decode : Tag → List UInt8 → Option Msg) (ops₁ ops₂ : List (ExtractOp Tag))
    (s : StreamExtractor) :
    (ExtractOp.calls decode (ops₁ ++ ops₂) s).2 =
      (ExtractOp.calls decode ops₂ (ExtractOp.calls decode ops₁ s).2).2 := by
  induction ops₁ generalizing s with
  | nil => rfl
  | cons op ops₁ ih =>
    obtain ⟨v, s₁, hrun⟩ : ∃ v s₁, op.call decode s = (.ok v, s₁) := by
      rcases call_cases decode op s with ⟨v, bytes, henc, hp⟩ | ⟨v, s₁, hrun, -⟩
      · exact ⟨v, _, call_encoded henc hp⟩
      · exact ⟨v, s₁, hrun⟩
    obtain ⟨vs, s₂, hs, -⟩ := calls_extracted decode ops₁ s₁
    obtain ⟨vs', s₃, hs', -⟩ := calls_extracted decode (ops₁ ++ ops₂) s₁
    have hih := ih s₁
    rw [hs, hs'] at hih
    rw [List.cons_append, ExtractOp.calls, Call.bind_ok hrun, Call.bind_ok hs', Call.pure_run,
      ExtractOp.calls, Call.bind_ok hrun, Call.bind_ok hs, Call.pure_run]
    exact hih

/-- **The packet extractor is safe and exact.** For every packet and every sequence of calls, with
    messages decoded in any way: the calls return, so that no index or slice is out of range; the
    error stays once it is set; without it, and without a message that failed to decode, the bytes
    before the cursor are those of the values returned; and from the bytes of values, whatever
    follows them, the calls return these values. -/
theorem extractor_exact (decode : Tag → List UInt8 → Option Msg) (vec : List UInt8)
    (ops : List (ExtractOp Tag)) :
    ∃ vs s, ExtractOp.calls decode ops (.new vec) = (.ok vs, s) ∧
      (∀ before, before <+: ops →
        (ExtractOp.calls decode before (.new vec)).2.error = true → s.error = true) ∧
      (s.error = false → (∀ v ∈ vs, v.isErr = false) →
        s.i ≤ vec.length ∧ EncodesAll decode ops vs (vec.take s.i)) ∧
      ∀ vs' bytes rest, EncodesAll decode ops vs' bytes → vec = bytes ++ rest →
        vs = vs' ∧ s.error = false ∧ s.i = bytes.length := by
  obtain ⟨vs, s, hs, hx⟩ := calls_extracted decode ops (.new vec)
  refine ⟨vs, s, hs, ?_, ?_, ?_⟩
  · rintro before ⟨after, rfl⟩ herr
    obtain ⟨_, s', hs', hx'⟩ := calls_extracted decode after
      (ExtractOp.calls decode before (.new vec)).2
    have happend := calls_append decode before after (.new vec)
    rw [hs, hs'] at happend
    have hlast : s = s' := happend
    rw [hlast]
    exact hx'.sticky herr
  · intro hok hall
    obtain ⟨bytes, henc, hp, rfl⟩ := hx.exact hok hall
    have hvec : bytes <+: vec := hp
    have hi : ((StreamExtractor.new vec).past bytes.length).i = bytes.length := Nat.zero_add _
    rw [hi, ← List.prefix_iff_eq_take.mp hvec]
    exact ⟨hvec.length_le, henc⟩
  · rintro vs' bytes rest henc rfl
    have hp : bytes <+: (StreamExtractor.new (bytes ++ rest)).ahead := List.prefix_append _ _
    have hrun := calls_encoded henc hp
    rw [hs] at hrun
    cases hrun
    exact ⟨rfl, rfl, Nat.zero_add _⟩

end Sequences

end Rpcn
