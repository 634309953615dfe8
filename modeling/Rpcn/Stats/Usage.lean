/-
  File:      Rpcn/Stats/Usage.lean
  Subject:   THE USAGE STATISTICS (stat_server.rs, game_tracker_to_json): when they are valid JSON.

  The text is written by hand, out of the counters of the tracker and three kinds of names that
  clients choose: communication ids and service ids go in as they are, titles through
  `sanitize_for_json`, which escapes quotes and backslashes and drops five control characters.
-/
import Rpcn.Lib.JsonPiece
import Rpcn.Ticket.Request

namespace Rpcn

open Lib Lib.Json Session

/-! ## 1. Titles -/

def isDropped (c : Char) : Bool :=
  c = '\x08' || c = '\x0C' || c = '\n' || c = '\r' || c = '\t'

def sanitizeForJson (s : List Char) : List Char :=
  s.flatMap fun c =>
    if c = '"' then ['\\', '"']
    else if c = '\\' then ['\\', '\\']
    else if isDropped c then []
    else [c]

def sanitized (s : List Char) : List Char := s.filter fun c => !isDropped c

theorem sanitized_cons (c : Char) (s : List Char) :
    sanitized (c :: s) = if isDropped c then sanitized s else c :: sanitized s := by
  rw [sanitized, List.filter_cons]
  cases isDropped c with
  | false => rfl
  | true => rfl

variable {c : Char}

theorem isControl_of_isDropped (h : isDropped c = true) : isControl c = true := by
  simp only [isDropped, Bool.or_eq_true, decide_eq_true_eq] at h
  rcases h with (((rfl | rfl) | rfl) | rfl) | rfl
  all_goals decide

theorem readChars_escaped (hc : c = '"' ∨ c = '\\') (fuel : Nat) (rest : List Char) :
    readChars (fuel + 1) ('\\' :: c :: rest) =
      (readChars fuel rest).map fun r => (c :: r.1, r.2) := by
  have hesc : readEscape (c :: rest) = some (c, rest) := by
    rcases hc with rfl | rfl
    · rfl
    · rfl
  rw [readChars, if_neg (by decide), if_pos rfl, hesc]
  simp only [Option.bind_eq_bind, Option.bind_some]
  cases readChars fuel rest with
  | none => rfl
  | some r => rfl

theorem map_cons_sanitized (hc : isControl c = false) (s rest : List Char) :
    ((if s.any isControl then none else some (s, rest)).map fun r => (c :: r.1, r.2)) =
      if (c :: s).any isControl then none else some (c :: s, rest) := by
  rw [List.any_cons, hc, Bool.false_or]
  split
  · rfl
  · rfl

theorem readChars_sanitize : ∀ (s : List Char) (fuel : Nat) (rest : List Char),
    (sanitizeForJson s).length < fuel →
    readChars fuel (sanitizeForJson s ++ '"' :: rest) =
      if (sanitized s).any isControl then none else some (sanitized s, rest)
  | [], fuel + 1, rest, _ => readChars_quote fuel rest
  | c :: s, fuel + 1, rest, hf => by
      have ih := readChars_sanitize s
      by_cases hesc : c = '"' ∨ c = '\\'
      · have htext : sanitizeForJson (c :: s) = '\\' :: c :: sanitizeForJson s := by
          rcases hesc with rfl | rfl
          · rfl
          · rfl
        have hkept : isDropped c = false ∧ isControl c = false := by
          rcases hesc with rfl | rfl
          · decide
          · decide
        rw [htext, List.length_cons, List.length_cons] at hf
        rw [htext, List.cons_append, List.cons_append, readChars_escaped hesc,
          ih fuel rest (by omega), map_cons_sanitized hkept.2, sanitized_cons, hkept.1]
        rfl
      · obtain ⟨hquote, hback⟩ := not_or.mp hesc
        by_cases hdrop : isDropped c = true
        · have htext : sanitizeForJson (c :: s) = sanitizeForJson s := by
            rw [sanitizeForJson, List.flatMap_cons, if_neg hquote, if_neg hback, if_pos hdrop]
            rfl
          rw [htext] at hf ⊢
          rw [ih (fuel + 1) rest hf, sanitized_cons, if_pos hdrop]
        · have htext : sanitizeForJson (c :: s) = c :: sanitizeForJson s := by
            rw [sanitizeForJson, List.flatMap_cons, if_neg hquote, if_neg hback, if_neg hdrop]
            rfl
          rw [htext, List.length_cons] at hf
          rw [htext, sanitized_cons, if_neg hdrop, List.cons_append]
          -- a control character that was not dropped ends the reading
          by_cases hcontrol : isControl c = true
          · rw [readChars, if_neg hquote, if_neg hback, if_pos hcontrol, List.any_cons, hcontrol]
            rfl
          · rw [readChars_plain (by simp [isPlain, hquote, hback, hcontrol]),
              ih fuel rest (by omega), map_cons_sanitized (by simpa using hcontrol)]

theorem readString_sanitize (s rest : List Char) :
    readString (sanitizeForJson s ++ '"' :: rest) =
      if (sanitized s).any isControl then none else some (sanitized s, rest) := by
  refine readChars_sanitize s _ rest ?_
  rw [List.length_append, List.length_cons]
  omega

def sanitizedQuoted (s : List Char) : Quoted where
  raw := sanitizeForJson s
  value := sanitized s
  good := ∀ c ∈ sanitized s, isControl c = false
  reads rest r := by
    rw [readString_sanitize]
    split
    · rename_i hany
      refine iff_of_false (fun h => by cases h) fun h => ?_
      obtain ⟨c, hc, hcontrol⟩ := List.any_eq_true.mp hany
      rw [h.1 c hc] at hcontrol
      cases hcontrol
    · rename_i hany
      rw [and_iff_right (by simpa using hany)]
      simp [eq_comm]

theorem readString_sanitize_eq_iff {s rest r : List Char} :
    readString (sanitizeForJson s ++ '"' :: rest) = some (s, r) ↔
      (∀ c ∈ s, isControl c = false) ∧ r = rest := by
  rw [readString_sanitize]
  constructor
  · intro h
    split at h
    · cases h
    · rename_i hany
      obtain ⟨hs, hr⟩ := Prod.mk.inj (Option.some.inj h)
      rw [hs] at hany
      exact ⟨by simpa using hany, hr.symm⟩
  · rintro ⟨hs, rfl⟩
    have hall : sanitized s = s := by
      refine List.filter_eq_self.mpr fun c hc => ?_
      cases hdrop : isDropped c with
      | false => rfl
      | true =>
        have hcontrol := isControl_of_isDropped hdrop
        rw [hs c hc] at hcontrol
        cases hcontrol
    rw [hall, if_neg (by simpa using hs)]

def titleQuoted (s : List Char) : Quoted where
  raw := sanitizeForJson s
  value := s
  good := ∀ c ∈ s, isControl c = false
  reads _ _ := readString_sanitize_eq_iff

/-! ## 2. The text -/

/-- `com_id_to_string`, as characters. -/
def comIdChars (comId : ComId) : List Char := StreamExtractor.chars comId.toList

structure Iteration (g : GameTracker) where
  psnGames : List (ComId × GameInfo)
  ticketGames : List (String × Int)
  nameHints : Finset String → List String
  psnGames_eq : (psnGames : Multiset _) = g.psnGames.entries
  ticketGames_eq : (ticketGames : Multiset _) = g.ticketGames.entries
  nameHints_eq : ∀ s, (nameHints s : Multiset _) = s.val

/-- A loop that ends every row but the last with a comma, which it tells by the index. -/
def writeRows (rows : List (List Char)) : List Char :=
  rows.zipIdx.flatMap fun (row, index) =>
    row ++ if index ≠ rows.length - 1 then [',', '\n'] else ['\n']

/-- What `add_games_with_hints` and `add_games` share. -/
def addSection {α : Type} (row : α → List Char) (sectionName : String) (v : List α) : List Char :=
  if v.isEmpty then []
  else
    ",\n    \"".toList ++ sectionName.toList ++ "\": \x7b\n".toList ++
      writeRows (v.map row) ++ "    \x7d".toList

def addGamesWithHints : String → List (List Char × Int × List String) → List Char :=
  addSection fun (name, numUsers, nameHints) =>
    "        \"".toList ++ name ++ "\": [".toList ++ numeral numUsers ++
      (nameHints.flatMap fun hint => ", \"".toList ++ sanitizeForJson hint.toList ++ "\"".toList) ++
      "]".toList

def addGames : String → List (String × Int) → List Char :=
  addSection fun (name, numUsers) =>
    "        \"".toList ++ name.toList ++ "\": ".toList ++ numeral numUsers

def gameTrackerToJson (g : GameTracker) (it : Iteration g) : List Char :=
  let psnGames := it.psnGames.filterMap fun (name, gameInfo) =>
    if gameInfo.numUsers ≠ 0 then
      some (comIdChars name, gameInfo.numUsers, it.nameHints gameInfo.nameHints)
    else none
  let ticketGames := it.ticketGames.filterMap fun (name, numUsers) =>
    if numUsers ≠ 0 then some (name, numUsers) else none
  "\x7b\n".toList ++ "    \"num_users\" : ".toList ++ numeral g.numUsers ++
    addGamesWithHints "psn_games" psnGames ++ addGames "ticket_games" ticketGames ++ "\n\x7d".toList

/-! ## 3. The text as a piece -/

section Rows

variable {β : Type} (sp : Spacing) (lead tail : List Char)
  (hbetween : sp.between = '\n' :: lead) (hlast : sp.last = sp.after ++ '\n' :: tail)

def rowOf (x : Chunk β) : List Char := lead ++ x.text ++ sp.after

include hbetween hlast

theorem zipIdx_rows : ∀ (xs : List (Chunk β)) (k n : Nat), xs ≠ [] → k + xs.length = n →
    (((xs.map (rowOf sp lead)).zipIdx k).flatMap fun (row, index) =>
        row ++ if index ≠ n - 1 then [',', '\n'] else ['\n']) ++ tail =
      lead ++ joined sp xs
  | [], _, _, hne, _ => absurd rfl hne
  | [x], k, n, _, hn => by
      have hk : ¬ k ≠ n - 1 := by
        rw [List.length_singleton] at hn
        omega
      rw [List.map_singleton, List.zipIdx_singleton, List.flatMap_singleton, joined, hlast]
      simp only [if_neg hk, rowOf, List.append_assoc, List.cons_append, List.nil_append]
  | x :: y :: xs, k, n, _, hn => by
      have hk : k ≠ n - 1 := by
        rw [List.length_cons, List.length_cons] at hn
        omega
      have hrest := zipIdx_rows (y :: xs) (k + 1) n (List.cons_ne_nil _ _)
        (by rw [List.length_cons] at hn; omega)
      rw [List.map_cons, List.zipIdx_cons, List.flatMap_cons, List.append_assoc, hrest, joined,
        hbetween]
      simp only [if_pos hk, rowOf, List.append_assoc, List.cons_append, List.nil_append]

theorem writeRows_eq (hfirst : sp.first = '\n' :: lead) (xs : List (Chunk β))
    (hnone : xs = [] → sp.none = '\n' :: tail) :
    '\n' :: (writeRows (xs.map (rowOf sp lead)) ++ tail) = bracketed sp xs := by
  cases xs with
  | nil =>
    rw [bracketed, if_pos List.isEmpty_nil, hnone rfl]
    rfl
  | cons x xs =>
    have hrows := zipIdx_rows sp lead tail hbetween hlast (x :: xs) 0 _ (List.cons_ne_nil _ _)
      (Nat.zero_add _)
    rw [writeRows, List.length_map, hrows, bracketed, if_neg (by simp), hfirst, List.cons_append]

end Rows

def gamesSpacing : Spacing where
  first := '\n' :: "        ".toList
  between := '\n' :: "        ".toList
  after := []
  last := '\n' :: "    ".toList
  none := '\n' :: "    ".toList
  blank := by decide +kernel

def sections {α : Type} (member : α → Member) (sectionName : String) (v : List α) : List Member :=
  if v.isEmpty then []
  else [.plain sectionName.toList (.obj gamesSpacing (v.map member))]

variable {α : Type}

theorem addSection_eq (member : α → Member) {row : α → List Char}
    (hrow : ∀ x, row x = "        ".toList ++ (member x).chunk.text) (sectionName : String)
    (v : List α) :
    addSection row sectionName v =
      (sections member sectionName v).flatMap fun m => ",\n    ".toList ++ m.chunk.text := by
  unfold addSection sections
  split
  · rfl
  · rename_i hv
    have hrows := writeRows_eq gamesSpacing "        ".toList "    ".toList rfl rfl rfl
      ((v.map member).map Member.chunk) fun _ => rfl
    have hmap : v.map row =
        ((v.map member).map Member.chunk).map (rowOf gamesSpacing "        ".toList) := by
      rw [List.map_map, List.map_map]
      exact List.map_congr_left fun x _ => (hrow x).trans (List.append_nil _).symm
    rw [List.flatMap_singleton, Member.text_plain, Piece.text_obj, ← hrows, hmap]
    simp

def psnMember (e : List Char × Int × List String) : Member :=
  .plain e.1 (.arr ⟨[], [' '], [], [], [], by decide⟩
    (.num e.2.1 :: e.2.2.map fun hint => .str (titleQuoted hint.toList)))

def ticketMember (e : String × Int) : Member := .plain e.1.toList (.num e.2)

variable (sectionName : String)

theorem addGamesWithHints_eq (v : List (List Char × Int × List String)) :
    addGamesWithHints sectionName v =
      (sections psnMember sectionName v).flatMap fun m => ",\n    ".toList ++ m.chunk.text := by
  refine addSection_eq psnMember (fun e => ?_) sectionName v
  have hhints : ((e.2.2.map fun hint => (Piece.str (titleQuoted hint.toList)).toChunk).flatMap
        fun y => [] ++ ',' :: ([' '] ++ y.text)) =
      e.2.2.flatMap fun hint => ", \"".toList ++ sanitizeForJson hint.toList ++ "\"".toList := by
    rw [List.flatMap_map]
    rfl
  rw [psnMember, Member.text_plain, Piece.text_arr, List.map_cons, List.map_map, bracketed_cons,
    Function.comp_def, hhints]
  simp [Piece.num]

theorem addGames_eq (v : List (String × Int)) :
    addGames sectionName v =
      (sections ticketMember sectionName v).flatMap fun m => ",\n    ".toList ++ m.chunk.text := by
  refine addSection_eq ticketMember (fun e => ?_) sectionName v
  rw [ticketMember, Member.text_plain]
  simp [Piece.num]

namespace Iteration

variable {g : GameTracker} (it : Iteration g)

def listedPsn : List (ComId × GameInfo) := it.psnGames.filter fun e => e.2.numUsers ≠ 0

def listedTicket : List (String × Int) := it.ticketGames.filter fun e => e.2 ≠ 0

theorem mem_listedPsn {comId : ComId} {info : GameInfo} :
    (comId, info) ∈ it.listedPsn ↔ g.psnGames.get? comId = some info ∧ info.numUsers ≠ 0 := by
  rw [listedPsn, List.mem_filter, ← Multiset.mem_coe, it.psnGames_eq, HashMap.mem_entries,
    decide_eq_true_eq]

theorem mem_listedTicket {serviceId : String} {numUsers : Int} :
    (serviceId, numUsers) ∈ it.listedTicket ↔
      g.ticketGames.get? serviceId = some numUsers ∧ numUsers ≠ 0 := by
  rw [listedTicket, List.mem_filter, ← Multiset.mem_coe, it.ticketGames_eq, HashMap.mem_entries,
    decide_eq_true_eq]

theorem mem_nameHints {s : Finset String} {hint : String} : hint ∈ it.nameHints s ↔ hint ∈ s := by
  rw [← Multiset.mem_coe, it.nameHints_eq, Finset.mem_val]

end Iteration

/-- A section of the statistics, which is left out if it has no members. -/
def sectionValue (sectionName : String) (members : List (List Char × Json)) :
    List (List Char × Json) :=
  if members.isEmpty then [] else [(sectionName.toList, .obj members)]

/-- **What the statistics mean**: the number of users, and each game and each service with a counter
    other than zero. -/
def usage (g : GameTracker) (it : Iteration g) : Json :=
  .obj (("num_users".toList, .num (numeral g.numUsers)) ::
    (sectionValue "psn_games" (it.listedPsn.map fun e =>
        (comIdChars e.1, .arr (.num (numeral e.2.numUsers) ::
          (it.nameHints e.2.nameHints).map fun hint => .str hint.toList))) ++
      sectionValue "ticket_games" (it.listedTicket.map fun e => (e.1.toList, .num (numeral e.2)))))

def usagePiece (g : GameTracker) (it : Iteration g) : Piece :=
  .obj ⟨'\n' :: "    ".toList, '\n' :: "    ".toList, [], ['\n'], [], by decide +kernel⟩
    (⟨.plain "num_users".toList, [' '], [' '], .num g.numUsers, by decide +kernel⟩ ::
      (sections psnMember "psn_games" (it.listedPsn.map fun e =>
          (comIdChars e.1, e.2.numUsers, it.nameHints e.2.nameHints)) ++
        sections ticketMember "ticket_games" it.listedTicket))

variable (g : GameTracker)

theorem gameTrackerToJson_eq (it : Iteration g) :
    gameTrackerToJson g it = (usagePiece g it).text := by
  have hpsn : (it.psnGames.filterMap fun e => if e.2.numUsers ≠ 0 then
        some (comIdChars e.1, e.2.numUsers, it.nameHints e.2.nameHints) else none) =
      it.listedPsn.map fun e => (comIdChars e.1, e.2.numUsers, it.nameHints e.2.nameHints) :=
    filterMap_eq_map_filter (fun e => by simp) it.psnGames
  have hticket : (it.ticketGames.filterMap fun e => if e.2 ≠ 0 then some (e.1, e.2) else none) =
      it.listedTicket := by
    rw [filterMap_eq_map_filter (p := fun e => e.2 ≠ 0) (g := id) (fun e => by simp)]
    exact List.map_id _
  have hsections (ms : List Member) : (ms.map Member.chunk).flatMap
        (fun y => [] ++ ',' :: (('\n' :: "    ".toList) ++ y.text)) =
      ms.flatMap fun m => ",\n    ".toList ++ m.chunk.text := by
    rw [List.flatMap_map]
    rfl
  unfold gameTrackerToJson
  dsimp only
  rw [hpsn, hticket, addGamesWithHints_eq, addGames_eq, usagePiece, Piece.text_obj, List.map_cons,
    bracketed_cons, hsections, List.flatMap_append, Member.text_chunk]
  simp [Quoted.plain, Piece.num]

theorem value_sections (member : α → Member) (sectionName : String) (v : List α) :
    (sections member sectionName v).map (fun m => (m.key.value, m.piece.value)) =
      sectionValue sectionName (v.map fun x => ((member x).key.value, (member x).piece.value)) := by
  unfold sections sectionValue
  cases v with
  | nil => rfl
  | cons x v => simp [Member.plain, Quoted.plain, Piece.obj]

theorem value_usagePiece (it : Iteration g) : (usagePiece g it).value = usage g it := by
  simp only [usagePiece, usage, Piece.obj, List.map_cons, List.map_append, value_sections,
    List.map_map]
  simp [psnMember, ticketMember, Member.plain, Quoted.plain, titleQuoted, Piece.num, Piece.arr, Piece.str,
    Function.comp_def]

theorem good_sections (member : α → Member) {sectionName : String}
    (hname : Plain sectionName.toList) (v : List α) :
    (∀ m ∈ sections member sectionName v, m.key.good ∧ m.piece.good) ↔
      ∀ x ∈ v, (member x).key.good ∧ (member x).piece.good := by
  unfold sections
  cases v with
  | nil => simp
  | cons x v =>
    simp only [List.isEmpty_cons, Bool.false_eq_true, if_false, List.mem_singleton, forall_eq]
    exact (and_iff_right hname).trans List.forall_mem_map

/-- **The names the statistics can show**: ids that need no escapes, titles without control
    characters. -/
def Showable (g : GameTracker) : Prop :=
  (∀ comId info, g.psnGames.get? comId = some info → info.numUsers ≠ 0 →
    Plain (comIdChars comId) ∧ ∀ hint ∈ info.nameHints, ∀ c ∈ hint.toList, isControl c = false) ∧
  ∀ serviceId numUsers, g.ticketGames.get? serviceId = some numUsers → numUsers ≠ 0 →
    Plain serviceId.toList

theorem good_usagePiece (it : Iteration g) : (usagePiece g it).good ↔ Showable g := by
  have hpsn : (∀ x ∈ it.listedPsn.map fun e =>
        (comIdChars e.1, e.2.numUsers, it.nameHints e.2.nameHints),
        (psnMember x).key.good ∧ (psnMember x).piece.good) ↔
      ∀ comId info, g.psnGames.get? comId = some info → info.numUsers ≠ 0 →
        Plain (comIdChars comId) ∧
          ∀ hint ∈ info.nameHints, ∀ c ∈ hint.toList, isControl c = false := by
    rw [List.forall_mem_map, Prod.forall]
    refine forall₂_congr fun comId info => ?_
    rw [it.mem_listedPsn, and_imp]
    refine forall₂_congr fun _ _ => and_congr_right fun _ => ?_
    refine List.forall_mem_cons.trans ((and_iff_right trivial).trans ?_)
    rw [List.forall_mem_map]
    exact forall_congr' fun hint => imp_congr_left it.mem_nameHints
  have hticket : (∀ x ∈ it.listedTicket, (ticketMember x).key.good ∧ (ticketMember x).piece.good) ↔
      ∀ serviceId numUsers, g.ticketGames.get? serviceId = some numUsers → numUsers ≠ 0 →
        Plain serviceId.toList := by
    rw [Prod.forall]
    refine forall₂_congr fun serviceId numUsers => ?_
    rw [it.mem_listedTicket, and_imp]
    exact forall₂_congr fun _ _ => and_iff_left trivial
  have hpsnName : Plain "psn_games".toList := by decide +kernel
  have hticketName : Plain "ticket_games".toList := by decide +kernel
  have husersName : Plain "num_users".toList := by decide +kernel
  rw [Showable, ← hpsn, ← hticket, ← good_sections psnMember hpsnName,
    ← good_sections ticketMember hticketName, ← List.forall_mem_append]
  exact List.forall_mem_cons.trans (and_iff_right ⟨husersName, trivial⟩)

/-- **The usage statistics are valid JSON** exactly if the names in them can be shown. For every
    tracker and every order of its maps: the listed entries are those with a counter other than zero,
    and the text is read as them, with their counters and titles, exactly if the communication ids
    and service ids among them have no quote, backslash or control character and the titles no control
    character. -/
theorem usage_is_json (g : GameTracker) (it : Iteration g) :
    (∀ comId info, (comId, info) ∈ it.listedPsn ↔
      g.psnGames.get? comId = some info ∧ info.numUsers ≠ 0) ∧
    (∀ serviceId numUsers, (serviceId, numUsers) ∈ it.listedTicket ↔
      g.ticketGames.get? serviceId = some numUsers ∧ numUsers ≠ 0) ∧
    (readJson (gameTrackerToJson g it) = some (usage g it) ↔ Showable g) := by
  refine ⟨fun _ _ => it.mem_listedPsn, fun _ _ => it.mem_listedTicket, ?_⟩
  rw [gameTrackerToJson_eq, ← value_usagePiece, Piece.readJson_iff, good_usagePiece]

def oneService (serviceId : String) (numUsers : Int) :
    Iteration (GameTracker.new.addValueTicket serviceId numUsers) where
  psnGames := []
  ticketGames := [(serviceId, numUsers)]
  nameHints s := s.sort (· ≤ ·)
  psnGames_eq := rfl
  ticketGames_eq := by
    have hnew : (GameTracker.new.ticketGames.get? serviceId).getD 0 = 0 := rfl
    rw [GameTracker.addValueTicket, hnew, zero_add, HashMap.entries_insert]
    rfl
  nameHints_eq s := s.sort_eq (· ≤ ·)

theorem usage_is_json_one_service :
    readJson (gameTrackerToJson _ (oneService "UP0001" 1)) = some (usage _ (oneService "UP0001" 1)) := by
  refine (usage_is_json _ (oneService "UP0001" 1)).2.2.mpr ⟨fun comId info h => ?_, ?_⟩
  · cases h
  · intro serviceId numUsers h _
    rw [GameTracker.addValueTicket, HashMap.get?_insert] at h
    split at h
    · rename_i hid
      subst hid
      decide +kernel
    · cases h

/-- **A service id that is a quote.** The server accepts the request for a ticket, counts the service,
    and the statistics are no JSON. -/
theorem quoted_service_breaks_usage :
    ∃ packet it, (reqTicket 0 none (freshClient.receive packet)).1.isOk = true ∧
      readJson (gameTrackerToJson
        (reqTicket 0 none (freshClient.receive packet)).2.gameTracker it) = none := by
  have htracker : (reqTicket 0 none (freshClient.receive (ticketBytes "\"" []))).2.gameTracker =
      GameTracker.new.addValueTicket "\"" 1 := by decide +kernel
  refine ⟨ticketBytes "\"" [], ?_⟩
  rw [htracker]
  exact ⟨oneService "\"" 1, by decide +kernel, by decide +kernel⟩

end Rpcn
