/-
  File:      Rpcn/Lib/JsonPiece.lean
  Subject:   TEXTS WRITTEN PIECE BY PIECE, and when they are read as what was meant.

  A program that writes JSON by hand puts pieces together: numerals, texts in quotes, brackets with
  commas and white space of its own. A piece here is a text with the value it is meant as and the
  condition under which it is read so, and it carries the proof: **it is read as that value, and up to
  its end, exactly under its condition**. Each way to build a piece from others keeps this, so that
  for a whole text nothing is left to show but what its pieces are.
-/
import Rpcn.Lib.Json

namespace Rpcn.Lib.Json

/-! ## 1. White space -/

def Blank (cs : List Char) : Prop := ∀ c ∈ cs, isWs c = true

instance (cs : List Char) : Decidable (Blank cs) := List.decidableBAll _ _

variable {ws : List Char}

theorem skipWs_blank (h : Blank ws) (rest : List Char) : skipWs (ws ++ rest) = skipWs rest := by
  rw [skipWs, List.dropWhile_append_of_pos h]
  rfl

variable {c : Char}

theorem skipWs_cons (h : isWs c = false) (rest : List Char) : skipWs (c :: rest) = c :: rest := by
  rw [skipWs, List.dropWhile_cons_of_neg (by simp [h])]

theorem stops_cons (h : isDelimiter c = true) (rest : List Char) : Stops (c :: rest) := by
  intro d hd
  cases hd
  exact h

theorem stops_blank (h : Blank ws) {rest : List Char} (hrest : Stops rest) :
    Stops (ws ++ rest) := by
  cases ws with
  | nil => exact hrest
  | cons c ws =>
    refine stops_cons ?_ _
    simp [isDelimiter, h c List.mem_cons_self]

/-! ## 2. Items -/

variable (sp : Spacing)

section Items

variable {α : Type}

structure Chunk (α : Type) where
  text : List Char
  value : α
  good : Prop
  starts : ∃ c cs, text = c :: cs ∧ isWs c = false ∧ c ≠ ']' ∧ c ≠ '}'

/-- **The item is read as its value**, and up to its end, exactly under its condition. -/
def Chunk.ReadBy (x : Chunk α) (item : List Char → Option (α × List Char)) : Prop :=
  ∀ rest r, Stops rest → (item (x.text ++ rest) = some (x.value, r) ↔ x.good ∧ r = rest)

/-- The white space in brackets: behind the opening one, behind a comma, before a comma, before the
    closing one, and where there are no items. -/
structure Spacing where
  first : List Char
  between : List Char
  after : List Char
  last : List Char
  none : List Char
  blank : Blank first ∧ Blank between ∧ Blank after ∧ Blank last ∧ Blank none

def joined (sp : Spacing) : List (Chunk α) → List Char
  | [] => []
  | [x] => x.text ++ sp.last
  | x :: y :: xs => x.text ++ (sp.after ++ ',' :: (sp.between ++ joined sp (y :: xs)))

def bracketed (sp : Spacing) (xs : List (Chunk α)) : List Char :=
  if xs.isEmpty then sp.none else sp.first ++ joined sp xs

theorem joined_cons_of_ne_nil (x : Chunk α) {xs : List (Chunk α)} (h : xs ≠ []) :
    joined sp (x :: xs) = x.text ++ (sp.after ++ ',' :: (sp.between ++ joined sp xs)) := by
  cases xs with
  | nil => exact absurd rfl h
  | cons y xs => rfl

theorem joined_cons (sp : Spacing) (x : Chunk α) : ∀ xs : List (Chunk α),
    joined sp (x :: xs) =
      x.text ++ (xs.flatMap (fun y => sp.after ++ ',' :: (sp.between ++ y.text)) ++ sp.last)
  | [] => rfl
  | y :: xs => by
      rw [joined, joined_cons sp y xs, List.flatMap_cons]
      simp

theorem bracketed_cons (x : Chunk α) (xs : List (Chunk α)) :
    bracketed sp (x :: xs) = sp.first ++ (x.text ++
      (xs.flatMap (fun y => sp.after ++ ',' :: (sp.between ++ y.text)) ++ sp.last)) := by
  rw [bracketed, if_neg (by simp), joined_cons]

theorem joined_starts (x : Chunk α) (xs : List (Chunk α)) :
    ∃ c cs, joined sp (x :: xs) = c :: cs ∧ isWs c = false ∧ c ≠ ']' ∧ c ≠ '}' := by
  obtain ⟨c, cs, htext, hc⟩ := x.starts
  cases xs with
  | nil => exact ⟨c, cs ++ sp.last, by rw [joined, htext]; rfl, hc⟩
  | cons y xs => exact ⟨c, _, by rw [joined, htext]; rfl, hc⟩

theorem length_le_joined (sp : Spacing) : ∀ {xs : List (Chunk α)}, ∀ x ∈ xs,
    x.text.length ≤ (joined sp xs).length
  | [], x, h => absurd h List.not_mem_nil
  | [y], x, h => by
      rw [List.mem_singleton] at h
      subst h
      rw [joined, List.length_append]
      omega
  | y :: z :: xs, x, h => by
      rw [joined, List.length_append, List.length_append, List.length_cons, List.length_append]
      rcases List.mem_cons.mp h with rfl | h
      · omega
      · have := length_le_joined sp x h
        omega

theorem length_le_bracketed {xs : List (Chunk α)} (x : Chunk α) (h : x ∈ xs) :
    x.text.length ≤ (bracketed sp xs).length := by
  have hjoined := length_le_joined sp x h
  rw [bracketed, if_neg (by simpa using List.ne_nil_of_mem h), List.length_append]
  omega

theorem length_joined (sp : Spacing) : ∀ xs : List (Chunk α), xs.length ≤ (joined sp xs).length
  | [] => Nat.zero_le _
  | [x] => by
      obtain ⟨c, cs, htext, -⟩ := x.starts
      rw [joined, htext, List.length_append, List.length_singleton, List.length_cons]
      omega
  | x :: y :: xs => by
      have := length_joined sp (y :: xs)
      obtain ⟨c, cs, htext, -⟩ := x.starts
      simp only [joined, List.length_append, List.length_cons] at this ⊢
      omega

variable {close : Char} {item : List Char → Option (α × List Char)}

theorem sepBy_head {fuel : Nat} {input r : List Char} {v : α} {vs : List α}
    (h : sepBy close item (fuel + 1) input = some (v :: vs, r)) :
    ∃ rest, item input = some (v, rest) := by
  rw [sepBy] at h
  obtain ⟨⟨a, rest⟩, ha, hnext⟩ := Option.bind_eq_some_iff.mp h
  refine ⟨rest, ?_⟩
  dsimp only at hnext
  split at hnext
  · cases hnext
  · split at hnext
    · obtain ⟨q, -, hq⟩ := Option.bind_eq_some_iff.mp hnext
      cases hq
      exact ha
    · split at hnext
      · cases hnext
        exact ha
      · cases hnext

theorem sepBy_blank (hskip : ∀ ws input, Blank ws → item (ws ++ input) = item input)
    (hws : Blank ws) (fuel : Nat) (input : List Char) :
    sepBy close item fuel (ws ++ input) = sepBy close item fuel input := by
  cases fuel with
  | zero => rfl
  | succ fuel => rw [sepBy, sepBy, hskip ws input hws]

theorem sepBy_comma {x : Chunk α} (hx : x.ReadBy item) {rest next : List Char} (hstops : Stops rest)
    (hnext : skipWs rest = ',' :: next) (fuel : Nat) (vs : List α) (r : List Char) :
    sepBy close item (fuel + 1) (x.text ++ rest) = some (x.value :: vs, r) ↔
      x.good ∧ sepBy close item fuel next = some (vs, r) := by
  by_cases hgood : x.good
  · have hread := (hx rest rest hstops).mpr ⟨hgood, rfl⟩
    simp only [sepBy, hread, hnext, Option.bind_eq_bind, Option.bind_some, if_true, hgood, true_and]
    cases sepBy close item fuel next with
    | none => simp
    | some q => simp [Prod.ext_iff]
  · refine ⟨fun h => ?_, fun h => absurd h.1 hgood⟩
    obtain ⟨rest', hread⟩ := sepBy_head h
    exact absurd ((hx rest rest' hstops).mp hread).1 hgood

theorem sepBy_close {x : Chunk α} (hx : x.ReadBy item) {rest next : List Char} (hstops : Stops rest)
    (hnext : skipWs rest = close :: next) (hclose : close ≠ ',') (fuel : Nat) (r : List Char) :
    sepBy close item (fuel + 1) (x.text ++ rest) = some ([x.value], r) ↔ x.good ∧ r = next := by
  by_cases hgood : x.good
  · have hread := (hx rest rest hstops).mpr ⟨hgood, rfl⟩
    simp only [sepBy, hread, hnext, Option.bind_eq_bind, Option.bind_some, hgood, true_and]
    simp [hclose, eq_comm]
  · refine ⟨fun h => ?_, fun h => absurd h.1 hgood⟩
    obtain ⟨rest', hread⟩ := sepBy_head h
    exact absurd ((hx rest rest' hstops).mp hread).1 hgood

def IsClosing (close : Char) : Prop := close = ']' ∨ close = '}'

theorem IsClosing.delimits {close : Char} (h : IsClosing close) :
    isWs close = false ∧ isDelimiter close = true ∧ close ≠ ',' := by
  rcases h with rfl | rfl <;> decide

theorem sepBy_joined (sp : Spacing) (hclose : IsClosing close)
    (hskip : ∀ ws input, Blank ws → item (ws ++ input) = item input) :
    ∀ (xs : List (Chunk α)), xs ≠ [] → (∀ x ∈ xs, x.ReadBy item) →
    ∀ (fuel : Nat), xs.length ≤ fuel → ∀ (rest r : List Char),
    (sepBy close item fuel (joined sp xs ++ close :: rest) = some (xs.map Chunk.value, r) ↔
      (∀ x ∈ xs, x.good) ∧ r = rest)
  | [], hne, _, _, _, _, _ => absurd rfl hne
  | [x], _, hreads, fuel + 1, _, rest, r => by
      obtain ⟨hws, hdelim, hcomma⟩ := hclose.delimits
      have hstops : Stops (sp.last ++ close :: rest) :=
        stops_blank sp.blank.2.2.2.1 (stops_cons hdelim rest)
      have hnext : skipWs (sp.last ++ close :: rest) = close :: rest := by
        rw [skipWs_blank sp.blank.2.2.2.1, skipWs_cons hws]
      rw [joined, List.append_assoc, List.map_singleton,
        sepBy_close (hreads x List.mem_cons_self) hstops hnext hcomma]
      simp
  | x :: y :: xs, _, hreads, fuel + 1, hfuel, rest, r => by
      -- the comma ends the first item; the white space behind it belongs to the second
      have hstops (next : List Char) : Stops (sp.after ++ ',' :: next) :=
        stops_blank sp.blank.2.2.1 (stops_cons (by decide) next)
      have hnext (next : List Char) : skipWs (sp.after ++ ',' :: next) = ',' :: next := by
        rw [skipWs_blank sp.blank.2.2.1, skipWs_cons (by decide)]
      have htail := sepBy_joined sp hclose hskip (y :: xs) (List.cons_ne_nil _ _)
        (fun z hz => hreads z (List.mem_cons_of_mem _ hz)) fuel (Nat.le_of_succ_le_succ hfuel) rest r
      simp only [joined, List.append_assoc, List.cons_append, List.map_cons]
      rw [sepBy_comma (hreads x List.mem_cons_self) (hstops _) (hnext _),
        sepBy_blank hskip sp.blank.2.1, ← List.map_cons, htail, ← and_assoc,
        ← List.forall_mem_cons]

theorem readItems_bracketed (hclose : IsClosing close)
    (hskip : ∀ ws input, Blank ws → item (ws ++ input) = item input) (xs : List (Chunk α))
    (hreads : ∀ x ∈ xs, x.ReadBy item) (rest r : List Char) :
    readItems close item (bracketed sp xs ++ close :: rest) = some (xs.map Chunk.value, r) ↔
      (∀ x ∈ xs, x.good) ∧ r = rest := by
  cases xs with
  | nil =>
    have hskipped : skipWs (bracketed sp ([] : List (Chunk α)) ++ close :: rest) =
        close :: rest := by
      rw [bracketed, if_pos List.isEmpty_nil, skipWs_blank sp.blank.2.2.2.2, skipWs_cons hclose.delimits.1]
    simp [readItems, hskipped, eq_comm]
  | cons x xs =>
    obtain ⟨c, cs, hjoined, hws, hbracket, hbrace⟩ := joined_starts sp x xs
    have hc : c ≠ close := by
      rcases hclose with rfl | rfl
      · exact hbracket
      · exact hbrace
    have htext : bracketed sp (x :: xs) ++ close :: rest =
        sp.first ++ (joined sp (x :: xs) ++ close :: rest) := by
      rw [bracketed, if_neg (by simp), List.append_assoc]
    have hskipped : skipWs (sp.first ++ (joined sp (x :: xs) ++ close :: rest)) =
        c :: (cs ++ close :: rest) := by
      rw [skipWs_blank sp.blank.1, hjoined, List.cons_append, skipWs_cons hws]
    have hfuel : (x :: xs).length ≤
        (sp.first ++ (joined sp (x :: xs) ++ close :: rest)).length := by
      have := length_joined sp (x :: xs)
      rw [List.length_append, List.length_append]
      omega
    rw [htext, readItems, hskipped]
    simp only [if_neg hc]
    rw [sepBy_blank hskip sp.blank.1]
    exact sepBy_joined sp hclose hskip (x :: xs) (List.cons_ne_nil _ _) hreads _ hfuel rest r

end Items

/-! ## 3. Texts in quotes -/

structure Quoted where
  raw : List Char
  value : List Char
  good : Prop
  reads : ∀ rest r, readString (raw ++ '"' :: rest) = some (value, r) ↔ good ∧ r = rest

def Quoted.plain (cs : List Char) : Quoted where
  raw := cs
  value := cs
  good := Plain cs
  reads _ _ := readString_eq_iff

/-! ## 4. Pieces -/

theorem readValue_blank (depth : Nat) (hws : Blank ws) (input : List Char) :
    readValue depth (ws ++ input) = readValue depth input := by
  cases depth with
  | zero => rfl
  | succ depth => rw [readValue, readValue, skipWs_blank hws]

theorem readMember_blank (value : List Char → Option (Json × List Char)) (hws : Blank ws)
    (input : List Char) : readMember value (ws ++ input) = readMember value input := by
  rw [readMember, readMember, skipWs_blank hws]

variable {value : List Char → Option (Json × List Char)}

theorem readMember_key {input r key : List Char} {v : Json}
    (h : readMember value ('"' :: input) = some ((key, v), r)) :
    ∃ rest, readString input = some (key, rest) := by
  rw [readMember, skipWs_cons (by decide)] at h
  obtain ⟨⟨k, rest⟩, hk, hnext⟩ := Option.bind_eq_some_iff.mp h
  refine ⟨rest, ?_⟩
  dsimp only at hnext
  split at hnext
  · cases hnext
  · split at hnext
    · obtain ⟨q, -, hq⟩ := Option.bind_eq_some_iff.mp hnext
      cases hq
      exact hk
    · cases hnext

theorem readMember_colon {input rest next key : List Char}
    (hkey : readString input = some (key, rest)) (hcolon : skipWs rest = ':' :: next) (v : Json)
    (r : List Char) :
    readMember value ('"' :: input) = some ((key, v), r) ↔ value next = some (v, r) := by
  rw [readMember, skipWs_cons (by decide)]
  simp only [if_true, hkey, hcolon, Option.bind_eq_bind, Option.bind_some]
  cases value next with
  | none => simp
  | some p => simp [Prod.ext_iff]

structure Piece extends Chunk Json where
  reads : ∀ depth, text.length ≤ depth → toChunk.ReadBy (readValue depth)

theorem map_wrap_eq_some {α : Type} {wrap : α → Json} (hwrap : ∀ a b, wrap a = wrap b → a = b)
    {found : Option (α × List Char)} {a : α} {r : List Char} :
    (found.map fun p => (wrap p.1, p.2)) = some (wrap a, r) ↔ found = some (a, r) := by
  cases found with
  | none => simp
  | some p =>
    simp only [Option.map_some, Option.some.injEq, Prod.ext_iff]
    exact and_congr_left fun _ => ⟨hwrap _ _, congrArg wrap⟩

variable (n : Int)

namespace Piece

theorem numeral_starts : ∃ c cs, numeral n = c :: cs ∧ (c = '-' ∨ c.isDigit = true) := by
  cases n with
  | ofNat n =>
    rw [Int.ofNat_eq_natCast, numeral_nonneg]
    cases hds : Nat.toDigits 10 n with
    | nil => exact absurd hds Nat.toDigits_ne_nil
    | cons d ds =>
      exact ⟨d, ds, rfl, .inr (Nat.isDigit_of_mem_toDigits (b := 10) (n := n) (by decide)
        (by decide) (by rw [hds]; exact List.mem_cons_self))⟩
  | negSucc n => exact ⟨'-', _, numeral_negSucc n, .inl rfl⟩

theorem numeral_starts_apart (h : c = '-' ∨ c.isDigit = true) :
    isWs c = false ∧ c ≠ ']' ∧ c ≠ '}' ∧
      c ≠ '"' ∧ c ≠ '[' ∧ c ≠ '{' ∧ c ≠ 't' ∧ c ≠ 'f' ∧ c ≠ 'n' := by
  rcases h with rfl | hc
  · decide
  · have hne (d : Char) (hd : d.isDigit = false) : c ≠ d := by
      rintro rfl
      rw [hc] at hd
      cases hd
    have hws : isWs c = false := by
      simp only [isWs, Bool.or_eq_false_iff, decide_eq_false_iff_not]
      exact ⟨⟨⟨hne _ rfl, hne _ rfl⟩, hne _ rfl⟩, hne _ rfl⟩
    exact ⟨hws, hne _ rfl, hne _ rfl, hne _ rfl, hne _ rfl, hne _ rfl, hne _ rfl, hne _ rfl,
      hne _ rfl⟩

def num (n : Int) : Piece where
  text := numeral n
  value := .num (numeral n)
  good := True
  starts := by
    obtain ⟨c, cs, htext, hc⟩ := numeral_starts n
    have hapart := numeral_starts_apart hc
    exact ⟨c, cs, htext, hapart.1, hapart.2.1, hapart.2.2.1⟩
  reads := by
    intro depth hdepth rest r hstops
    obtain ⟨c, cs, htext, hc⟩ := numeral_starts n
    obtain ⟨hws, -, -, hquote, hbracket, hbrace, ht, hf, hn⟩ := numeral_starts_apart hc
    have hread := readNumber_int n hstops
    cases depth with
    | zero =>
      rw [htext] at hdepth
      cases hdepth
    | succ depth =>
      rw [htext, List.cons_append] at hread
      simp only [htext, List.cons_append, readValue, skipWs_cons hws, if_neg hquote,
        if_neg hbracket, if_neg hbrace, if_neg ht, if_neg hf, if_neg hn, hread]
      simp [eq_comm]

def bool (b : Bool) : Piece where
  text := if b then ['t', 'r', 'u', 'e'] else ['f', 'a', 'l', 's', 'e']
  value := .bool b
  good := True
  starts := by
    cases b
    · exact ⟨'f', _, rfl, by decide⟩
    · exact ⟨'t', _, rfl, by decide⟩
  reads := by
    intro depth hdepth rest r _
    cases depth with
    | zero => cases b <;> cases hdepth
    | succ depth =>
      cases b
      all_goals
        simp [readValue, skipWs_cons, isWs, readWord, eq_comm]

def str (q : Quoted) : Piece where
  text := '"' :: (q.raw ++ ['"'])
  value := .str q.value
  good := q.good
  starts := ⟨'"', _, rfl, by decide⟩
  reads := by
    intro depth hdepth rest r _
    cases depth with
    | zero => cases hdepth
    | succ depth =>
      have hread : readValue (depth + 1) ('"' :: (q.raw ++ ['"']) ++ rest) =
          (readString (q.raw ++ '"' :: rest)).map fun p => (.str p.1, p.2) := by
        rw [readValue, List.cons_append, skipWs_cons (by decide), List.append_assoc]
        rfl
      rw [hread, ← q.reads rest r]
      exact map_wrap_eq_some fun _ _ => Json.str.inj

def arr (sp : Spacing) (xs : List Piece) : Piece where
  text := '[' :: (bracketed sp (xs.map toChunk) ++ [']'])
  value := .arr (xs.map (·.value))
  good := ∀ x ∈ xs, x.good
  starts := ⟨'[', _, rfl, by decide⟩
  reads := by
    intro depth hdepth rest r _
    cases depth with
    | zero => cases hdepth
    | succ depth =>
      have hread : readValue (depth + 1) ('[' :: (bracketed sp (xs.map toChunk) ++ [']']) ++ rest) =
          (readItems ']' (readValue depth) (bracketed sp (xs.map toChunk) ++ ']' :: rest)).map
            fun p => (.arr p.1, p.2) := by
        rw [readValue, List.cons_append, skipWs_cons (by decide), List.append_assoc]
        rfl
      have hchunks : ∀ x ∈ xs.map toChunk, x.ReadBy (readValue depth) := by
        rw [List.forall_mem_map]
        intro x hx
        refine x.reads depth ?_
        have := length_le_bracketed sp _ (List.mem_map_of_mem (f := toChunk) hx)
        rw [List.length_cons, List.length_append] at hdepth
        omega
      have hitems := readItems_bracketed sp (.inl rfl) (fun ws input hws =>
        readValue_blank depth hws input) (xs.map toChunk) hchunks rest r
      rw [List.forall_mem_map, List.map_map] at hitems
      rw [hread, ← hitems]
      exact map_wrap_eq_some fun _ _ => Json.arr.inj

end Piece

structure Member where
  key : Quoted
  before : List Char
  after : List Char
  piece : Piece
  blank : Blank before ∧ Blank after

def Member.chunk (m : Member) : Chunk (List Char × Json) where
  text := '"' :: (m.key.raw ++ '"' :: (m.before ++ ':' :: (m.after ++ m.piece.text)))
  value := (m.key.value, m.piece.value)
  good := m.key.good ∧ m.piece.good
  starts := ⟨'"', _, rfl, by decide⟩

variable (m : Member)

theorem Member.text_chunk : m.chunk.text =
    '"' :: (m.key.raw ++ '"' :: (m.before ++ ':' :: (m.after ++ m.piece.text))) := rfl

theorem Member.length_le_chunk : m.piece.text.length ≤ m.chunk.text.length := by
  simp only [chunk, List.length_cons, List.length_append]
  omega

theorem Member.readBy {depth : Nat} (h : m.piece.text.length ≤ depth) :
    m.chunk.ReadBy (readMember (readValue depth)) := by
  intro rest r hstops
  have htext : m.chunk.text ++ rest =
      '"' :: (m.key.raw ++ '"' :: (m.before ++ ':' :: (m.after ++ (m.piece.text ++ rest)))) := by
    simp [chunk]
  have hcolon : skipWs (m.before ++ ':' :: (m.after ++ (m.piece.text ++ rest))) =
      ':' :: (m.after ++ (m.piece.text ++ rest)) := by
    rw [skipWs_blank m.blank.1, skipWs_cons (by decide)]
  have hkey := m.key.reads (m.before ++ ':' :: (m.after ++ (m.piece.text ++ rest)))
  rw [htext]
  by_cases hgood : m.key.good
  · rw [show m.chunk.value = (m.key.value, m.piece.value) from rfl,
      readMember_colon ((hkey _).mpr ⟨hgood, rfl⟩) hcolon, readValue_blank depth m.blank.2,
      m.piece.reads depth h rest r hstops]
    exact and_congr_left fun _ => ⟨fun hp => ⟨hgood, hp⟩, And.right⟩
  · refine ⟨fun hread => ?_, fun hread => absurd hread.1.1 hgood⟩
    obtain ⟨rest', hk⟩ := readMember_key hread
    exact absurd ((hkey rest').mp hk).1 hgood

/-- A member whose name is written as it is, with a blank behind the colon. -/
def Member.plain (name : List Char) (piece : Piece) : Member :=
  ⟨.plain name, [], [' '], piece, by decide⟩

theorem Member.text_plain (name : List Char) (piece : Piece) :
    (Member.plain name piece).chunk.text =
      '"' :: (name ++ '"' :: ':' :: ' ' :: piece.text) := rfl

def Piece.obj (sp : Spacing) (ms : List Member) : Piece where
  text := '{' :: (bracketed sp (ms.map Member.chunk) ++ ['}'])
  value := .obj (ms.map fun m => (m.key.value, m.piece.value))
  good := ∀ m ∈ ms, m.key.good ∧ m.piece.good
  starts := ⟨'{', _, rfl, by decide⟩
  reads := by
    intro depth hdepth rest r _
    cases depth with
    | zero => cases hdepth
    | succ depth =>
      have hread : readValue (depth + 1)
            ('{' :: (bracketed sp (ms.map Member.chunk) ++ ['}']) ++ rest) =
          (readItems '}' (readMember (readValue depth))
            (bracketed sp (ms.map Member.chunk) ++ '}' :: rest)).map
              fun p => (.obj p.1, p.2) := by
        rw [readValue, List.cons_append, skipWs_cons (by decide), List.append_assoc]
        rfl
      have hchunks : ∀ x ∈ ms.map Member.chunk, x.ReadBy (readMember (readValue depth)) := by
        rw [List.forall_mem_map]
        intro m hm
        refine m.readBy ?_
        have hle := length_le_bracketed sp _ (List.mem_map_of_mem (f := Member.chunk) hm)
        have hpiece := m.length_le_chunk
        rw [List.length_cons, List.length_append] at hdepth
        omega
      have hitems := readItems_bracketed sp (.inr rfl) (fun ws input hws =>
        readMember_blank (readValue depth) hws input) (ms.map Member.chunk) hchunks rest r
      rw [List.forall_mem_map, List.map_map] at hitems
      rw [hread]
      exact (map_wrap_eq_some fun _ _ => Json.obj.inj).trans hitems

theorem Piece.text_num : (Piece.num n).text = numeral n := rfl

theorem Piece.text_arr (xs : List Piece) :
    (Piece.arr sp xs).text = '[' :: (bracketed sp (xs.map toChunk) ++ [']']) := rfl

theorem Piece.text_obj (ms : List Member) :
    (Piece.obj sp ms).text = '{' :: (bracketed sp (ms.map Member.chunk) ++ ['}']) := rfl

theorem Piece.readJson_iff (p : Piece) : readJson p.text = some p.value ↔ p.good := by
  have hreads := p.reads p.text.length (Nat.le_refl _) []
  rw [List.append_nil] at hreads
  have hstops : Stops [] := fun c hc => by cases hc
  unfold readJson
  constructor
  · intro h
    split at h
    · rename_i v rest hv
      split at h
      · cases h
        exact ((hreads rest hstops).mp hv).1
      · cases h
    · cases h
  · intro hgood
    rw [(hreads [] hstops).mpr ⟨hgood, rfl⟩]
    rfl

end Rpcn.Lib.Json
