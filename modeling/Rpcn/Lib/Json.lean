/-
  File:      Rpcn/Lib/Json.lean
  Subject:   A READER OF JSON TEXTS (RFC 8259).

  The grammar as a function on characters: white space around values, strings with their escapes and
  without control characters, numbers, arrays and objects. It returns the value and what follows it.
  A number is kept as it is written.
-/
import Mathlib.Data.List.Basic

namespace Rpcn.Lib

inductive Json where
  | null
  | bool (b : Bool)
  | num (text : List Char)
  | str (cs : List Char)
  | arr (items : List Json)
  | obj (members : List (List Char × Json))

variable (n : Nat) {rest input : List Char} {c e : Char}

namespace Json

/-! ## 1. Strings -/

def isControl (c : Char) : Bool := c.toNat < 0x20

def hexDigit (c : Char) : Option Nat :=
  if 0x30 ≤ c.toNat ∧ c.toNat ≤ 0x39 then some (c.toNat - 0x30)
  else if 0x41 ≤ c.toNat ∧ c.toNat ≤ 0x46 then some (c.toNat - 0x41 + 10)
  else if 0x61 ≤ c.toNat ∧ c.toNat ≤ 0x66 then some (c.toNat - 0x61 + 10)
  else none

def readHex : List Char → Option (Nat × List Char)
  | a :: b :: c :: d :: rest => do
    let a ← hexDigit a
    let b ← hexDigit b
    let c ← hexDigit c
    let d ← hexDigit d
    some (((a * 16 + b) * 16 + c) * 16 + d, rest)
  | _ => none

/-- `\uXXXX`, behind the `u`. A character outside of the basic plane is written as a surrogate pair;
    half of a pair is no character. -/
def readUnicode (input : List Char) : Option (Char × List Char) := do
  let (n, rest) ← readHex input
  if 0xD800 ≤ n ∧ n ≤ 0xDBFF then
    match rest with
    | '\\' :: 'u' :: rest => do
      let (m, rest) ← readHex rest
      if 0xDC00 ≤ m ∧ m ≤ 0xDFFF then
        some (Char.ofNat (0x10000 + (n - 0xD800) * 0x400 + (m - 0xDC00)), rest)
      else none
    | _ => none
  else if 0xDC00 ≤ n ∧ n ≤ 0xDFFF then none
  else some (Char.ofNat n, rest)

def shortEscape (e : Char) : Option Char :=
  if e = '"' then some '"'
  else if e = '\\' then some '\\'
  else if e = '/' then some '/'
  else if e = 'b' then some (Char.ofNat 8)
  else if e = 'f' then some (Char.ofNat 12)
  else if e = 'n' then some '\n'
  else if e = 'r' then some '\r'
  else if e = 't' then some '\t'
  else none

def readEscape : List Char → Option (Char × List Char)
  | [] => none
  | e :: rest =>
    if e = 'u' then readUnicode rest
    else (shortEscape e).map fun c => (c, rest)

/-- The characters of a string up to its closing quote, at most `fuel` of them. -/
def readChars : Nat → List Char → Option (List Char × List Char)
  | 0, _ => none
  | _ + 1, [] => none
  | fuel + 1, c :: rest =>
    if c = '"' then some ([], rest)
    else if c = '\\' then do
      let (e, rest) ← readEscape rest
      let (cs, rest) ← readChars fuel rest
      some (e :: cs, rest)
    else if isControl c then none
    else do
      let (cs, rest) ← readChars fuel rest
      some (c :: cs, rest)

def readString (input : List Char) : Option (List Char × List Char) :=
  readChars input.length input

def isPlain (c : Char) : Bool := c ≠ '"' && c ≠ '\\' && !isControl c

/-- **A text that needs no escapes.** -/
def Plain (cs : List Char) : Prop := ∀ c ∈ cs, isPlain c = true

instance (cs : List Char) : Decidable (Plain cs) := List.decidableBAll _ _

theorem readChars_quote (fuel : Nat) (rest : List Char) :
    readChars (fuel + 1) ('"' :: rest) = some ([], rest) := by
  rw [readChars, if_pos rfl]

theorem readChars_plain (hc : isPlain c = true) (fuel : Nat) (rest : List Char) :
    readChars (fuel + 1) (c :: rest) =
      (readChars fuel rest).map fun r => (c :: r.1, r.2) := by
  unfold isPlain at hc
  simp only [Bool.and_eq_true, decide_eq_true_eq, ne_eq, Bool.not_eq_true'] at hc
  rw [readChars, if_neg hc.1.1, if_neg hc.1.2, hc.2]
  cases readChars fuel rest <;> rfl

theorem readChars_of_plain : ∀ {cs : List Char}, Plain cs → ∀ (fuel : Nat) (rest : List Char),
    cs.length < fuel → readChars fuel (cs ++ '"' :: rest) = some (cs, rest)
  | [], _, fuel + 1, rest, _ => readChars_quote fuel rest
  | c :: cs, h, fuel + 1, rest, hf => by
      have hrest := readChars_of_plain (fun d hd => h d (List.mem_cons_of_mem _ hd)) fuel rest
        (Nat.lt_of_succ_lt_succ hf)
      rw [List.cons_append, readChars_plain (h c List.mem_cons_self), hrest]
      rfl

theorem hexDigit_ne_quote {n : Nat} (h : hexDigit c = some n) : c ≠ '"' := by
  rintro rfl
  cases h

theorem readHex_uses {n : Nat} (h : readHex input = some (n, rest)) :
    ∃ used, input = used ++ rest ∧ '"' ∉ used := by
  unfold readHex at h
  split at h
  · rename_i a b c d tail
    simp only [Option.bind_eq_bind, Option.bind_eq_some_iff, Option.some.injEq, Prod.mk.injEq] at h
    obtain ⟨x, ha, y, hb, z, hc, w, hd, -, rfl⟩ := h
    refine ⟨[a, b, c, d], rfl, ?_⟩
    simp only [List.mem_cons, List.not_mem_nil, or_false, not_or]
    exact ⟨(hexDigit_ne_quote ha).symm, (hexDigit_ne_quote hb).symm, (hexDigit_ne_quote hc).symm,
      (hexDigit_ne_quote hd).symm⟩
  · cases h

theorem readUnicode_uses (h : readUnicode input = some (e, rest)) :
    ∃ used, input = used ++ rest ∧ '"' ∉ used := by
  unfold readUnicode at h
  simp only [Option.bind_eq_bind, Option.bind_eq_some_iff] at h
  obtain ⟨⟨n, rest₁⟩, hhex, h⟩ := h
  obtain ⟨used, rfl, hused⟩ := readHex_uses hhex
  dsimp only at h
  split at h
  · split at h
    · rename_i rest₂
      simp only [Option.bind_eq_some_iff] at h
      obtain ⟨⟨m, rest₃⟩, hhex', h⟩ := h
      obtain ⟨used', rfl, hused'⟩ := readHex_uses hhex'
      dsimp only at h
      split at h
      · obtain ⟨-, rfl⟩ := Prod.mk.inj (Option.some.inj h)
        refine ⟨used ++ '\\' :: 'u' :: used', by simp, ?_⟩
        simp [hused, hused']
      · cases h
    · cases h
  · split at h
    · cases h
    · obtain ⟨-, rfl⟩ := Prod.mk.inj (Option.some.inj h)
      exact ⟨used, rfl, hused⟩

theorem readEscape_uses (h : readEscape input = some (e, rest)) :
    ∃ used, input = used ++ rest ∧ used ≠ [] ∧ ('"' ∈ used → used = ['"'] ∧ e = '"') := by
  cases input with
  | nil => cases h
  | cons d tail =>
    rw [readEscape] at h
    split at h
    · rename_i hd
      obtain ⟨used, rfl, hused⟩ := readUnicode_uses h
      refine ⟨d :: used, rfl, List.cons_ne_nil _ _, fun hq => ?_⟩
      rcases List.mem_cons.mp hq with hq | hq
      · rw [← hq] at hd
        exact absurd hd (by decide)
      · exact absurd hq hused
    · obtain ⟨e', he', h⟩ := Option.map_eq_some_iff.mp h
      cases h
      refine ⟨[d], rfl, List.cons_ne_nil _ _, fun hq => ?_⟩
      rw [List.mem_singleton] at hq
      subst hq
      cases he'
      exact ⟨rfl, rfl⟩

/-- The reading of a text went past its closing quote: it has a quote at a position within the text,
    and one before each quote of the text. -/
structure Crossed (text cs : List Char) : Prop where
  quoted : ∃ i, i < text.length ∧ cs[i]? = some '"'
  earlier : ∀ i : Nat, text[i]? = some '"' → ∃ j, j < i ∧ cs[j]? = some '"'

theorem Crossed.cons {text cs : List Char} (h : Crossed text cs) (used : List Char)
    (hne : used ≠ []) (hc : ∀ i : Nat, used[i]? = some '"' → 0 < i ∧ c = '"') :
    Crossed (used ++ text) (c :: cs) := by
  have hpos := List.length_pos_iff.mpr hne
  refine ⟨?_, ?_⟩
  · obtain ⟨i, hi, hq⟩ := h.quoted
    exact ⟨i + 1, by rw [List.length_append]; omega, hq⟩
  · intro i hi
    by_cases hlt : i < used.length
    · rw [List.getElem?_append_left hlt] at hi
      obtain ⟨h0, rfl⟩ := hc i hi
      exact ⟨0, h0, rfl⟩
    · rw [List.getElem?_append_right (by omega)] at hi
      obtain ⟨j, hj, hq⟩ := h.earlier _ hi
      exact ⟨j + 1, by omega, hq⟩

theorem not_crossed_self (text : List Char) : ¬ Crossed text text := by
  intro h
  have hnone : ∀ i : Nat, text[i]? ≠ some '"' := by
    intro i
    induction i using Nat.strongRecOn with
    | ind i ih =>
      intro hi
      obtain ⟨j, hj, hq⟩ := h.earlier i hi
      exact ih j hj hq
  obtain ⟨i, -, hq⟩ := h.quoted
  exact hnone i hq

theorem readChars_trace : ∀ (fuel : Nat) {text rest cs r : List Char},
    readChars fuel (text ++ '"' :: rest) = some (cs, r) →
      (Plain text ∧ cs = text ∧ r = rest) ∨ cs.length < text.length ∨ Crossed text cs
  | 0, _, _, _, _, h => by cases h
  | fuel + 1, [], rest, cs, r, h => by
      rw [List.nil_append, readChars_quote] at h
      cases h
      exact Or.inl ⟨fun _ hc => absurd hc List.not_mem_nil, rfl, rfl⟩
  | fuel + 1, c :: text, rest, cs, r, h => by
      by_cases hplain : isPlain c = true
      · rw [List.cons_append, readChars_plain hplain] at h
        obtain ⟨⟨cs', r'⟩, hread, h⟩ := Option.map_eq_some_iff.mp h
        cases h
        rcases readChars_trace fuel hread with ⟨hp, rfl, rfl⟩ | hlt | hcross
        · exact Or.inl ⟨List.forall_mem_cons.mpr ⟨hplain, hp⟩, rfl, rfl⟩
        · exact Or.inr (Or.inl (Nat.succ_lt_succ hlt))
        · refine Or.inr (Or.inr (hcross.cons [c] (List.cons_ne_nil c []) fun i hi => ?_))
          have hmem := List.mem_of_getElem? hi
          rw [List.mem_singleton] at hmem
          subst hmem
          exact absurd hplain (by decide)
      · rw [List.cons_append, readChars] at h
        split at h
        · cases h
          exact Or.inr (Or.inl (Nat.succ_pos _))
        · split at h
          · rename_i hq hback
            simp only [Option.bind_eq_bind, Option.bind_eq_some_iff] at h
            obtain ⟨⟨e, rest₁⟩, hesc, ⟨cs', r'⟩, hread, h⟩ := h
            cases h
            obtain ⟨used, happ, hne, hquote⟩ := readEscape_uses hesc
            dsimp only at hread
            have hpos := List.length_pos_iff.mpr hne
            rcases List.append_eq_append_iff.mp happ with ⟨tail, rfl, htail⟩ | ⟨tail, rfl, rfl⟩
            · cases tail with
              | nil =>
                -- the escape ends with the text
                rw [List.nil_append] at htail
                rw [List.append_nil] at hpos
                rw [← htail, ← List.nil_append ('"' :: rest)] at hread
                rcases readChars_trace fuel hread with
                  ⟨-, rfl, -⟩ | hlt | ⟨⟨i, hi, -⟩, -⟩
                · exact Or.inr (Or.inl (Nat.succ_lt_succ hpos))
                · exact absurd hlt (Nat.not_lt_zero _)
                · exact absurd hi (Nat.not_lt_zero _)
              | cons t tail =>
                -- the escape is the backslash at the end of the text and the closing quote
                obtain ⟨rfl, -⟩ := List.cons.inj htail
                obtain ⟨hused, rfl⟩ := hquote (by simp)
                obtain ⟨rfl, -⟩ : text = [] ∧ tail = [] := by
                  cases text with
                  | nil => exact ⟨rfl, (List.cons.inj hused).2⟩
                  | cons d text => simp at hused
                refine Or.inr (Or.inr ⟨⟨0, by simp, rfl⟩, fun i hi => ?_⟩)
                have hmem := List.mem_of_getElem? hi
                rw [List.mem_singleton] at hmem
                exact absurd hmem.symm hq
            · rcases readChars_trace fuel hread with ⟨-, rfl, -⟩ | hlt | hcross
              · refine Or.inr (Or.inl ?_)
                simp only [List.length_cons, List.length_append]
                omega
              · refine Or.inr (Or.inl ?_)
                simp only [List.length_cons, List.length_append]
                omega
              · refine Or.inr (Or.inr
                  (hcross.cons (c :: used) (List.cons_ne_nil _ _) fun i hi => ?_))
                cases i with
                | zero => exact absurd (Option.some.inj hi) hq
                | succ i => exact ⟨Nat.succ_pos i, (hquote (List.mem_of_getElem? hi)).2⟩
          · split at h
            · cases h
            · rename_i hq hback hcontrol
              exact absurd (by simp [isPlain, hq, hback, hcontrol]) hplain

theorem readString_eq_iff {text r : List Char} :
    readString (text ++ '"' :: rest) = some (text, r) ↔ Plain text ∧ r = rest := by
  constructor
  · intro h
    rcases readChars_trace _ h with ⟨hp, -, hr⟩ | hlt | hcross
    · exact ⟨hp, hr⟩
    · exact absurd hlt (Nat.lt_irrefl _)
    · exact absurd hcross (not_crossed_self text)
  · rintro ⟨hp, rfl⟩
    refine readChars_of_plain hp _ _ ?_
    rw [List.length_append, List.length_cons]
    omega

/-! ## 2. Numbers -/

def readDigits (input : List Char) : List Char × List Char :=
  (input.takeWhile Char.isDigit, input.dropWhile Char.isDigit)

/-- `0`, or digits that do not begin with a zero. -/
def readInt (input : List Char) : Option (List Char × List Char) :=
  let (ds, rest) := readDigits input
  if ds = [] ∨ (ds.head? = some '0' ∧ ds ≠ ['0']) then none else some (ds, rest)

def readFrac : List Char → Option (List Char × List Char)
  | [] => some ([], [])
  | c :: rest =>
    if c = '.' then
      let (ds, rest) := readDigits rest
      if ds = [] then none else some (c :: ds, rest)
    else some ([], c :: rest)

def readSign : List Char → List Char × List Char
  | [] => ([], [])
  | c :: rest => if c = '+' ∨ c = '-' then ([c], rest) else ([], c :: rest)

def readExp : List Char → Option (List Char × List Char)
  | [] => some ([], [])
  | c :: rest =>
    if c = 'e' ∨ c = 'E' then
      let (sign, rest) := readSign rest
      let (ds, rest) := readDigits rest
      if ds = [] then none else some (c :: sign ++ ds, rest)
    else some ([], c :: rest)

def readMinus : List Char → List Char × List Char
  | [] => ([], [])
  | c :: rest => if c = '-' then ([c], rest) else ([], c :: rest)

def readNumber (input : List Char) : Option (List Char × List Char) := do
  let (minus, rest) := readMinus input
  let (int, rest) ← readInt rest
  let (frac, rest) ← readFrac rest
  let (exp, rest) ← readExp rest
  some (minus ++ int ++ frac ++ exp, rest)

def isWs (c : Char) : Bool := c = ' ' || c = '\t' || c = '\n' || c = '\r'

/-- White space, or what may stand behind a value. -/
def isDelimiter (c : Char) : Bool := isWs c || c = ',' || c = ']' || c = '}'

/-- A value ends before this text. -/
def Stops (rest : List Char) : Prop := ∀ c ∈ rest.head?, isDelimiter c = true

/-- The numeral of an integer, as `{}` writes it. -/
def numeral (n : Int) : List Char := (toString n).toList

theorem numeral_nonneg : numeral n = Nat.toDigits 10 n := by
  show (Nat.repr n).toList = _
  rw [Nat.repr, String.toList_ofList]

theorem numeral_negSucc : numeral (Int.negSucc n) = '-' :: Nat.toDigits 10 (n + 1) := by
  show ("-" ++ Nat.repr (n + 1)).toList = _
  rw [String.toList_append, Nat.repr, String.toList_ofList, String.toList_ofList]
  rfl

theorem head_toDigits_ne_zero (hpos : 0 < n) : (Nat.toDigits 10 n).head? ≠ some '0' := by
  have hdigit : ∀ d < 10, Nat.digitChar d = '0' → d = 0 := by decide
  induction n using Nat.strongRecOn with
  | ind n ih =>
    by_cases hn : n < 10
    · rw [Nat.toDigits_of_lt_base hn]
      intro h
      have := hdigit n hn (Option.some.inj h)
      omega
    · rw [Nat.toDigits_of_base_le (by decide) (by omega),
        List.head?_append_of_ne_nil _ Nat.toDigits_ne_nil]
      exact ih (n / 10) (by omega) (by omega)

theorem isDigit_of_isDelimiter (h : isDelimiter c = true) : c.isDigit = false := by
  simp only [isDelimiter, isWs, Bool.or_eq_true, decide_eq_true_eq] at h
  rcases h with (((((rfl | rfl) | rfl) | rfl) | rfl) | rfl) | rfl
  all_goals decide

theorem readDigits_append {ds : List Char} (hds : ∀ c ∈ ds, c.isDigit = true) (hrest : Stops rest) :
    readDigits (ds ++ rest) = (ds, rest) := by
  rw [readDigits, List.takeWhile_append_of_pos hds, List.dropWhile_append_of_pos hds]
  cases rest with
  | nil => simp
  | cons c rest =>
    have hc := isDigit_of_isDelimiter (hrest c rfl)
    rw [List.takeWhile_cons_of_neg (by simp [hc]), List.dropWhile_cons_of_neg (by simp [hc]),
      List.append_nil]

theorem readInt_toDigits (hrest : Stops rest) :
    readInt (Nat.toDigits 10 n ++ rest) = some (Nat.toDigits 10 n, rest) := by
  have hds : ∀ c ∈ Nat.toDigits 10 n, c.isDigit = true := fun c hc =>
    Nat.isDigit_of_mem_toDigits (by decide) (by decide) hc
  rw [readInt, readDigits_append hds hrest]
  refine if_neg ?_
  rintro (h | ⟨hzero, hne⟩)
  · exact Nat.toDigits_ne_nil h
  · rcases Nat.eq_zero_or_pos n with rfl | hpos
    · exact hne rfl
    · exact head_toDigits_ne_zero n hpos hzero

theorem readFrac_stops (hrest : Stops rest) : readFrac rest = some ([], rest) := by
  cases rest with
  | nil => rfl
  | cons c rest =>
    refine if_neg ?_
    rintro rfl
    exact absurd (hrest '.' rfl) (by decide)

theorem readExp_stops (hrest : Stops rest) : readExp rest = some ([], rest) := by
  cases rest with
  | nil => rfl
  | cons c rest =>
    refine if_neg ?_
    rintro (rfl | rfl)
    · exact absurd (hrest 'e' rfl) (by decide)
    · exact absurd (hrest 'E' rfl) (by decide)

theorem readNumber_int (n : Int) (hrest : Stops rest) :
    readNumber (numeral n ++ rest) = some (numeral n, rest) := by
  unfold readNumber
  cases n with
  | ofNat n =>
    have hminus : readMinus (Nat.toDigits 10 n ++ rest) = ([], Nat.toDigits 10 n ++ rest) := by
      cases hds : Nat.toDigits 10 n with
      | nil => exact absurd hds Nat.toDigits_ne_nil
      | cons d ds =>
        refine if_neg ?_
        rintro rfl
        have hd := Nat.isDigit_of_mem_toDigits (b := 10) (n := n) (c := '-') (by decide)
          (by decide) (by rw [hds]; exact List.mem_cons_self)
        exact absurd hd (by decide)
    rw [Int.ofNat_eq_natCast, numeral_nonneg, hminus]
    simp only [readInt_toDigits n hrest, readFrac_stops hrest, readExp_stops hrest,
      Option.bind_eq_bind, Option.bind_some, List.nil_append, List.append_nil]
  | negSucc n =>
    have hminus : readMinus ('-' :: Nat.toDigits 10 (n + 1) ++ rest) =
        (['-'], Nat.toDigits 10 (n + 1) ++ rest) := by
      rw [List.cons_append, readMinus, if_pos rfl]
    rw [numeral_negSucc, hminus]
    simp only [readInt_toDigits (n + 1) hrest, readFrac_stops hrest, readExp_stops hrest,
      Option.bind_eq_bind, Option.bind_some, List.append_nil]
    rfl

/-! ## 3. Values -/

def skipWs (input : List Char) : List Char := input.dropWhile isWs

section Items

variable {α : Type} (close : Char) (item : List Char → Option (α × List Char))

/-- Items with commas between them, up to the closing bracket; at most `fuel` of them. -/
def sepBy : Nat → List Char → Option (List α × List Char)
  | 0, _ => none
  | fuel + 1, input => do
    let (a, rest) ← item input
    match skipWs rest with
    | [] => none
    | c :: rest =>
      if c = ',' then do
        let (as, rest) ← sepBy fuel rest
        some (a :: as, rest)
      else if c = close then some ([a], rest)
      else none

def readItems (input : List Char) : Option (List α × List Char) :=
  match skipWs input with
  | [] => none
  | c :: rest => if c = close then some ([], rest) else sepBy close item input.length input

end Items

def readMember (value : List Char → Option (Json × List Char)) (input : List Char) :
    Option ((List Char × Json) × List Char) :=
  match skipWs input with
  | [] => none
  | c :: rest =>
    if c = '"' then do
      let (key, rest) ← readString rest
      match skipWs rest with
      | [] => none
      | d :: rest =>
        if d = ':' then do
          let (v, rest) ← value rest
          some ((key, v), rest)
        else none
    else none

def readWord (word : List Char) (v : Json) (input : List Char) : Option (Json × List Char) :=
  if word.isPrefixOf input then some (v, input.drop word.length) else none

/-- **A value**, with brackets nested up to the given depth. -/
def readValue : Nat → List Char → Option (Json × List Char)
  | 0, _ => none
  | depth + 1, input =>
    match skipWs input with
    | [] => none
    | c :: rest =>
      if c = '"' then (readString rest).map fun r => (.str r.1, r.2)
      else if c = '[' then
        (readItems ']' (readValue depth) rest).map fun r => (.arr r.1, r.2)
      else if c = '{' then
        (readItems '}' (readMember (readValue depth)) rest).map fun r => (.obj r.1, r.2)
      else if c = 't' then readWord ['t', 'r', 'u', 'e'] (.bool true) (c :: rest)
      else if c = 'f' then readWord ['f', 'a', 'l', 's', 'e'] (.bool false) (c :: rest)
      else if c = 'n' then readWord ['n', 'u', 'l', 'l'] .null (c :: rest)
      else (readNumber (c :: rest)).map fun r => (.num r.1, r.2)

/-- **A text**: one value, with white space around it. -/
def readJson (text : List Char) : Option Json :=
  match readValue text.length text with
  | some (v, rest) => if rest.all isWs then some v else none
  | none => none

end Json

end Rpcn.Lib
