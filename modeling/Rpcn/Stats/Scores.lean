/-
  File:      Rpcn/Stats/Scores.lean
  Subject:   THE SCORE DUMPS (stat_server.rs, score_result_to_json and com_id_score_to_json): when they
             are valid JSON.

  A dump has one object for each entry of a board, with the comment of the player as
  `sanitize_for_json` leaves it: a control character it does not drop stays in the text.
-/
import Rpcn.Account.Reserved
import Rpcn.Score.Server
import Rpcn.Stats.Usage

namespace Rpcn

open Lib Lib.Json Np2Structs ScoresCache

/-! ## 1. The texts -/

/-- `format!("{:02x}", b)`, byte by byte. -/
def hexBytes (bytes : List UInt8) : List Char :=
  bytes.flatMap fun b => [Nat.digitChar (b.toNat / 16), Nat.digitChar (b.toNat % 16)]

def spaces (n : Nat) : List Char := List.replicate n ' '

/-- `"name": value`, behind the given number of spaces. -/
def fieldText (indent : Nat) (name : String) (value : List Char) : List Char :=
  spaces indent ++ '"' :: (name.toList ++ '"' :: ':' :: ' ' :: value)

/-- `writeln!(res, "..\"name\": {},", value)` for each of the fields. -/
def fieldLines (indent : Nat) (fields : List (String × List Char)) : List Char :=
  fields.flatMap fun (name, value) => fieldText indent name value ++ [',', '\n']

def quote (text : List Char) : List Char := '"' :: (text ++ ['"'])

def commentAt (result : GetScoreResultCache) (index : Nat) : Except ScorePanic (List Char) :=
  match result.comments with
  | none => .ok []
  | some comments =>
    match comments[index]? with
    | none => .error .indexOutOfRange
    | some comment => .ok (sanitizeForJson comment.toList)

def gameInfoAt (result : GetScoreResultCache) (index : Nat) : Except ScorePanic (List Char) :=
  match result.infos with
  | none => .ok []
  | some infos =>
    match infos[index]? with
    | none => .error .indexOutOfRange
    | some info => .ok (hexBytes info)

def scoreRow (score : ScoreRankDataCache) (comment gameInfo : List Char) : List Char :=
  spaces 8 ++ ['{', '\n', '\n'] ++
    fieldLines 12 [("rank", numeral (score.rank + 1).toNat),
      ("npid", quote score.npid.toList),
      ("online_name", quote (sanitizeForJson score.onlineName.toList)),
      ("pcid", numeral score.pcid),
      ("score", numeral score.score),
      ("has_gamedata", (toString score.hasGamedata).toList),
      ("comment", quote comment),
      ("info", quote gameInfo)] ++
    fieldText 12 "timestamp" (numeral score.timestamp.toNat) ++ ['\n'] ++
    spaces 8 ++ ['}', '\n']

def rowAt (result : GetScoreResultCache) (entry : ScoreRankDataCache × Nat) :
    Except ScorePanic (List Char) := do
  let comment ← commentAt result entry.2
  let gameInfo ← gameInfoAt result entry.2
  pure (scoreRow entry.1 comment gameInfo)

def scoreResultToJson (result : GetScoreResultCache) (boardId : UInt32) (tableInfos : DbBoardInfo) :
    Except ScorePanic (List Char) := do
  let rows ← result.scores.zipIdx.mapM (rowAt result)
  pure (['{', '\n'] ++
    fieldLines 4 [("board_id", numeral boardId.toNat),
      ("rank_limit", numeral tableInfos.rankLimit.toNat),
      ("update_mode", numeral tableInfos.updateMode.toNat),
      ("sort_mode", numeral tableInfos.sortMode.toNat),
      ("upload_num_limit", numeral tableInfos.uploadNumLimit.toNat),
      ("upload_size_limit", numeral tableInfos.uploadSizeLimit.toNat),
      ("total_records", numeral result.totalRecords.toNat)] ++
    fieldText 4 "scores" ['['] ++ ['\n'] ++ writeRows rows ++ spaces 4 ++ [']', '\n', '}'])

structure TableOrder (s : ScoresCache) where
  tables : List (TableDescription × ScoreTableCache)
  tables_eq : (tables : Multiset _) = s.tables.entries

def TableOrder.getAllTables {s : ScoresCache} (order : TableOrder s) (comId : ComId) :
    List (UInt32 × ScoreTableCache) :=
  order.tables.filterMap fun (desc, table) =>
    if desc.comId = comIdToString comId then some (desc.boardId, table) else none

/-- The boards of a title, by their ids: `tables.sort_by_key(|(board_id, _)| *board_id)`. -/
def TableOrder.sortedTables {s : ScoresCache} (order : TableOrder s) (comId : ComId) :
    List (UInt32 × ScoreTableCache) :=
  (order.getAllTables comId).insertionSort fun a b => a.1 ≤ b.1

/-- The dump of a board, as the loop of `com_id_score_to_json` and `handle_table_score_req` make
    it. -/
def dumpTable (comId : ComId) (boardId : UInt32) (tableInfos : DbBoardInfo) :
    ScoreCall ScoresCache (List Char) := do
  let result ← ScoresCache.getScoreRange comId boardId 1 tableInfos.rankLimit true true
  Call.ofPanic (scoreResultToJson result boardId tableInfos)

def dumpTables (comId : ComId) :
    List (UInt32 × ScoreTableCache) → ScoreCall ScoresCache (List (List Char))
  | [] => pure []
  | (boardId, table) :: tables => do
    let json ← dumpTable comId boardId table.tableInfo
    let rows ← dumpTables comId tables
    pure (json :: rows)

def comIdScoreToJson {s : ScoresCache} (order : TableOrder s) (comId : ComId) :
    ScoreCall ScoresCache (List Char) :=
  if (order.getAllTables comId).isEmpty then pure ['[', ']']
  else do
    let rows ← dumpTables comId (order.sortedTables comId)
    pure (['[', '\n'] ++ writeRows rows ++ [']'])

/-! ## 2. What the dumps mean -/

def scoreValue (score : ScoreRankDataCache) (comment : String) (gameInfo : List UInt8) : Json :=
  .obj [("rank".toList, .num (numeral (score.rank + 1).toNat)),
    ("npid".toList, .str score.npid.toList),
    ("online_name".toList, .str score.onlineName.toList),
    ("pcid".toList, .num (numeral score.pcid)),
    ("score".toList, .num (numeral score.score)),
    ("has_gamedata".toList, .bool score.hasGamedata),
    ("comment".toList, .str (sanitized comment.toList)),
    ("info".toList, .str (hexBytes gameInfo)),
    ("timestamp".toList, .num (numeral score.timestamp.toNat))]

def scoreValues (result : GetScoreResultCache) : List Json :=
  result.scores.mapIdx fun i score =>
    scoreValue score ((result.comments.getD [])[i]?.getD "") ((result.infos.getD [])[i]?.getD [])

/-- **What a dump means.** -/
def dumpValue (result : GetScoreResultCache) (boardId : UInt32) (tableInfos : DbBoardInfo) : Json :=
  .obj [("board_id".toList, .num (numeral boardId.toNat)),
    ("rank_limit".toList, .num (numeral tableInfos.rankLimit.toNat)),
    ("update_mode".toList, .num (numeral tableInfos.updateMode.toNat)),
    ("sort_mode".toList, .num (numeral tableInfos.sortMode.toNat)),
    ("upload_num_limit".toList, .num (numeral tableInfos.uploadNumLimit.toNat)),
    ("upload_size_limit".toList, .num (numeral tableInfos.uploadSizeLimit.toNat)),
    ("total_records".toList, .num (numeral result.totalRecords.toNat)),
    ("scores".toList, .arr (scoreValues result))]

/-- **A comment a dump can show**: its control characters are those that are dropped. -/
def Dumpable (comment : String) : Prop :=
  ∀ c ∈ comment.toList, isControl c = true → isDropped c = true

instance (comment : String) : Decidable (Dumpable comment) := List.decidableBAll _ _

def ScoreUserCache.Valid (u : ScoreUserCache) : Prop :=
  Account.isValidClientUsername u.npid = true ∧ Account.isValidClientUsername u.onlineName = true

/-! ## 3. The dump of a board as a piece -/

section Lines

variable (sp : Spacing) (indent : Nat) (lead : List Char) (hafter : sp.after = [])
  (hbetween : sp.between = '\n' :: spaces indent)

def fieldMembers (fs : List (String × Piece)) : List Member :=
  fs.map fun f => .plain f.1.toList f.2

def fieldTexts (fs : List (String × Piece)) : List (String × List Char) :=
  fs.map fun f => (f.1, f.2.text)

include hafter hbetween

theorem joined_lines (name : String) (p : Piece) : ∀ fs : List (String × Piece),
    spaces indent ++
        joined sp ((fieldMembers fs ++ [Member.plain name.toList p]).map Member.chunk) =
      fieldLines indent (fieldTexts fs) ++ (fieldText indent name p.text ++ sp.last)
  | [] => by
      rw [fieldMembers, List.map_nil, List.nil_append, List.map_singleton, joined, Member.text_plain,
        fieldText, List.append_assoc]
      simp [fieldLines, fieldTexts]
  | f :: fs => by
      have hrest := joined_lines name p fs
      rw [fieldTexts, List.map_cons, fieldLines, List.flatMap_cons, ← fieldTexts, ← fieldLines,
        List.append_assoc, ← hrest, fieldMembers, List.map_cons, List.cons_append, List.map_cons,
        joined_cons_of_ne_nil sp _ (by simp), hafter, hbetween, Member.text_plain, ← fieldMembers]
      simp [fieldText]

theorem text_obj_lines (hfirst : sp.first = lead ++ spaces indent) (fs : List (String × Piece))
    (name : String) (p : Piece) :
    (Piece.obj sp (fieldMembers fs ++ [.plain name.toList p])).text =
      '{' :: (lead ++ (fieldLines indent (fieldTexts fs) ++
        (fieldText indent name p.text ++ sp.last)) ++ ['}']) := by
  rw [← joined_lines sp indent hafter hbetween, Piece.text_obj, bracketed, if_neg (by simp), hfirst]
  simp only [List.append_assoc]

end Lines

def rowSpacing : Spacing where
  first := '\n' :: '\n' :: spaces 12
  between := '\n' :: spaces 12
  after := []
  last := '\n' :: spaces 8
  none := []
  blank := by decide

def lineFields (l : ResultLine) : List (String × Piece) :=
  [("rank", .num (l.data.rank + 1).toNat),
    ("npid", .str (.plain l.data.npid.toList)),
    ("online_name", .str (titleQuoted l.data.onlineName.toList)),
    ("pcid", .num l.data.pcid),
    ("score", .num l.data.score),
    ("has_gamedata", .bool l.data.hasGamedata),
    ("comment", .str (sanitizedQuoted l.comment.toList)),
    ("info", .str (.plain (hexBytes l.gameInfo)))]

def linePiece (l : ResultLine) : Piece :=
  .obj rowSpacing (fieldMembers (lineFields l) ++
    [.plain "timestamp".toList (.num l.data.timestamp.toNat)])

def lineRow (l : ResultLine) : List Char :=
  scoreRow l.data (sanitizeForJson l.comment.toList) (hexBytes l.gameInfo)

theorem lineRow_eq (l : ResultLine) :
    lineRow l = spaces 8 ++ (linePiece l).text ++ ['\n'] := by
  have hbool : (toString l.data.hasGamedata).toList = (Piece.bool l.data.hasGamedata).text := by
    cases l.data.hasGamedata
    · rfl
    · rfl
  rw [lineRow, scoreRow, hbool, linePiece,
    text_obj_lines rowSpacing 12 ['\n', '\n'] rfl rfl rfl (lineFields l)]
  show _ ++ fieldLines 12 (fieldTexts (lineFields l)) ++ _ ++ _ ++ _ ++ _ = _
  generalize fieldLines 12 (fieldTexts (lineFields l)) = lines
  rw [Piece.text_num, show rowSpacing.last = '\n' :: spaces 8 from rfl]
  simp

def scoresSpacing : Spacing where
  first := '\n' :: spaces 8
  between := '\n' :: spaces 8
  after := ['\n']
  last := '\n' :: '\n' :: spaces 4
  none := '\n' :: spaces 4
  blank := by decide

def dumpSpacing : Spacing where
  first := '\n' :: spaces 4
  between := '\n' :: spaces 4
  after := []
  last := ['\n']
  none := []
  blank := by decide

variable {l : ResultLine} {i : Nat}

section Dump

variable (table : ScoreTableCache) (lines : List ResultLine) (boardId : UInt32)
  (tableInfos : DbBoardInfo)

def dumpFields : List (String × Piece) :=
  [("board_id", .num boardId.toNat),
    ("rank_limit", .num tableInfos.rankLimit.toNat),
    ("update_mode", .num tableInfos.updateMode.toNat),
    ("sort_mode", .num tableInfos.sortMode.toNat),
    ("upload_num_limit", .num tableInfos.uploadNumLimit.toNat),
    ("upload_size_limit", .num tableInfos.uploadSizeLimit.toNat),
    ("total_records", .num (resultOf table lines true true).totalRecords.toNat)]

def dumpPiece : Piece :=
  .obj dumpSpacing (fieldMembers (dumpFields table lines boardId tableInfos) ++
    [.plain "scores".toList (.arr scoresSpacing (lines.map linePiece))])

theorem rowAt_resultOf (h : lines[i]? = some l) :
    rowAt (resultOf table lines true true) (l.data, i) = .ok (lineRow l) := by
  simp [rowAt, commentAt, gameInfoAt, resultOf, lineRow, h]
  rfl

theorem mapM_rowAt (result : GetScoreResultCache) : ∀ (ls : List ResultLine) (k : Nat),
    (∀ i l, ls[i]? = some l → rowAt result (l.data, k + i) = .ok (lineRow l)) →
    ((ls.map ResultLine.data).zipIdx k).mapM (rowAt result) = .ok (ls.map lineRow)
  | [], _, _ => rfl
  | l :: ls, k, h => by
      have hrest := mapM_rowAt result ls (k + 1) fun i l' hl' => by
        rw [Nat.add_right_comm, Nat.add_assoc]
        exact h (i + 1) l' hl'
      have hrow : rowAt result (l.data, k) = .ok (lineRow l) := h 0 l rfl
      rw [List.map_cons, List.zipIdx_cons, List.mapM_cons, hrest, hrow]
      rfl

theorem scoreResultToJson_resultOf :
    scoreResultToJson (resultOf table lines true true) boardId tableInfos =
      .ok (dumpPiece table lines boardId tableInfos).text := by
  have hrows := mapM_rowAt (resultOf table lines true true) lines 0 fun i l hl => by
    rw [Nat.zero_add]
    exact rowAt_resultOf table lines hl
  have hmap : lines.map lineRow =
      ((lines.map linePiece).map Piece.toChunk).map (rowOf scoresSpacing (spaces 8)) := by
    rw [List.map_map, List.map_map]
    exact List.map_congr_left fun l _ => lineRow_eq l
  have hscores := writeRows_eq scoresSpacing (spaces 8) (spaces 4) rfl rfl rfl
    ((lines.map linePiece).map Piece.toChunk) fun _ => rfl
  rw [← hmap] at hscores
  have hwritten : scoreResultToJson (resultOf table lines true true) boardId tableInfos =
      .ok (['{', '\n'] ++ fieldLines 4 (fieldTexts (dumpFields table lines boardId tableInfos)) ++
        fieldText 4 "scores" ['['] ++ ['\n'] ++ writeRows (lines.map lineRow) ++ spaces 4 ++
          [']', '\n', '}']) := by
    rw [scoreResultToJson, show (resultOf table lines true true).scores = lines.map ResultLine.data
      from rfl, hrows]
    rfl
  rw [hwritten, dumpPiece, text_obj_lines dumpSpacing 4 ['\n'] rfl rfl rfl, Piece.text_arr, ← hscores,
    show dumpSpacing.last = ['\n'] from rfl]
  simp [fieldText]

/-! ## 4. Conditions -/

theorem value_fields (fs : List (String × Piece)) :
    (fieldMembers fs).map (fun m => (m.key.value, m.piece.value)) =
      fs.map fun f => (f.1.toList, f.2.value) := by
  rw [fieldMembers, List.map_map]
  rfl

theorem good_obj_fields (sp : Spacing) (fs : List (String × Piece)) (name : String) (p : Piece)
    (hnames : ∀ n ∈ name :: fs.map Prod.fst, Plain n.toList) :
    (Piece.obj sp (fieldMembers fs ++ [.plain name.toList p])).good ↔
      (∀ f ∈ fs, f.2.good) ∧ p.good := by
  rw [List.forall_mem_cons, List.forall_mem_map] at hnames
  refine List.forall_mem_append.trans (and_congr ?_ ?_)
  · rw [fieldMembers, List.forall_mem_map]
    exact forall₂_congr fun f hf => and_iff_right (hnames.2 f hf)
  · exact List.forall_mem_singleton.trans (and_iff_right hnames.1)

theorem value_linePiece (l : ResultLine) :
    (linePiece l).value = scoreValue l.data l.comment l.gameInfo := by
  simp only [linePiece, Piece.obj, List.map_append, value_fields]
  rfl

theorem scoreValues_resultOf :
    scoreValues (resultOf table lines true true) = (lines.map linePiece).map (·.value) := by
  refine List.ext_getElem? fun i => ?_
  rw [scoreValues, List.getElem?_mapIdx, List.getElem?_map, List.getElem?_map]
  cases h : lines[i]? with
  | none => simp [resultOf, h]
  | some l => simp [resultOf, h, value_linePiece]

theorem value_dumpPiece :
    (dumpPiece table lines boardId tableInfos).value =
      dumpValue (resultOf table lines true true) boardId tableInfos := by
  rw [dumpValue, scoreValues_resultOf]
  simp only [dumpPiece, Piece.obj, List.map_append, value_fields]
  rfl

end Dump

theorem isPlain_of_isAlphanum {c : Char} (h : c.isAlphanum = true) : isPlain c = true := by
  have hne (d : Char) (hd : d.isAlphanum = false) : c ≠ d := by
    rintro rfl
    rw [h] at hd
    cases hd
  have hcontrol : isControl c = false := by
    simp only [Char.isAlphanum, Char.isAlpha, Char.isUpper, Char.isLower, Char.isDigit,
      Bool.or_eq_true, Bool.and_eq_true, decide_eq_true_eq, ge_iff_le, UInt32.le_iff_toNat_le] at h
    simp only [isControl, Char.toNat, decide_eq_false_iff_not]
    have hA : 'A'.val.toNat = 65 := rfl
    have ha : 'a'.val.toNat = 97 := rfl
    have h0 : '0'.val.toNat = 48 := rfl
    omega
  simp [isPlain, hne '"' rfl, hne '\\' rfl, hcontrol]

theorem plain_of_valid {name : String} (h : Account.isValidClientUsername name = true) :
    Plain name.toList := by
  simp only [Account.isValidClientUsername, Bool.and_eq_true, List.all_eq_true, Bool.or_eq_true,
    beq_iff_eq] at h
  intro c hc
  rcases h.1.2 c hc with (halnum | rfl) | rfl
  · exact isPlain_of_isAlphanum halnum
  · decide
  · decide

theorem sanitized_good_iff (comment : String) :
    (∀ c ∈ sanitized comment.toList, isControl c = false) ↔ Dumpable comment := by
  unfold sanitized Dumpable
  simp only [List.mem_filter, Bool.not_eq_true', and_imp]
  refine forall₂_congr fun c _ => ?_
  cases isDropped c with
  | false => simp
  | true => simp

theorem plain_hexBytes (bytes : List UInt8) : Plain (hexBytes bytes) := by
  have hdigit : ∀ n < 16, isPlain (Nat.digitChar n) = true := by decide
  intro c hc
  obtain ⟨b, -, hc⟩ := List.mem_flatMap.mp hc
  have hb := b.toNat_lt
  rcases List.mem_cons.mp hc with rfl | hc
  · exact hdigit _ (by omega)
  · rw [List.mem_singleton] at hc
    subst hc
    exact hdigit _ (by omega)

theorem good_linePiece (hnpid : Account.isValidClientUsername l.data.npid = true)
    (hname : Account.isValidClientUsername l.data.onlineName = true) :
    (linePiece l).good ↔ Dumpable l.comment := by
  have hnames : ∀ n ∈ "timestamp" :: (lineFields l).map Prod.fst, Plain n.toList := by
    show ∀ n ∈ ["timestamp", "rank", "npid", "online_name", "pcid", "score", "has_gamedata",
      "comment", "info"], Plain n.toList
    decide +kernel
  have hshown : ∀ c ∈ l.data.onlineName.toList, isControl c = false := by
    intro c hc
    have hplain := plain_of_valid hname c hc
    simp only [isPlain, Bool.and_eq_true, Bool.not_eq_true'] at hplain
    exact hplain.2
  rw [linePiece, good_obj_fields _ _ _ _ hnames, ← sanitized_good_iff]
  constructor
  · rintro ⟨hfields, -⟩
    exact hfields ("comment", .str (sanitizedQuoted l.comment.toList)) (by simp [lineFields])
  · intro hcomment
    refine ⟨?_, trivial⟩
    simp only [lineFields, List.forall_mem_cons]
    exact ⟨trivial, plain_of_valid hnpid, hshown, trivial, trivial, trivial, hcomment,
      plain_hexBytes _, fun _ h => absurd h List.not_mem_nil⟩

theorem good_dumpPiece (table : ScoreTableCache) (lines : List ResultLine) (boardId : UInt32)
    (tableInfos : DbBoardInfo) :
    (dumpPiece table lines boardId tableInfos).good ↔ ∀ l ∈ lines, (linePiece l).good := by
  have hnames : ∀ n ∈ "scores" :: (dumpFields table lines boardId tableInfos).map Prod.fst,
      Plain n.toList := by
    show ∀ n ∈ ["scores", "board_id", "rank_limit", "update_mode", "sort_mode", "upload_num_limit",
      "upload_size_limit", "total_records"], Plain n.toList
    decide +kernel
  have hfields : ∀ f ∈ dumpFields table lines boardId tableInfos, f.2.good := by
    simp only [dumpFields, List.forall_mem_cons]
    exact ⟨trivial, trivial, trivial, trivial, trivial, trivial, trivial,
      fun _ h => absurd h List.not_mem_nil⟩
  rw [dumpPiece, good_obj_fields _ _ _ _ hnames, and_iff_right hfields]
  exact List.forall_mem_map

variable {table : ScoreTableCache}

theorem lineAt_names {users : HashMap UserId ScoreUserCache} (h : lineAt table users i = .ok l) :
    ∃ id user, users.get? id = some user ∧ l.data.npid = user.npid ∧
      l.data.onlineName = user.onlineName := by
  unfold lineAt at h
  split at h
  · cases h
  · split at h
    · cases h
    · rename_i user hu
      cases h
      exact ⟨_, user, hu, rfl, rfl⟩

variable {result : GetScoreResultCache} {s : ScoresCache} {comId : ComId}

variable {boardId startRank numRanks : UInt32}

theorem getScoreRange_returned
    (h : (getScoreRange comId boardId startRank numRanks true true s).1 = .ok result) :
    getScoreRange comId boardId startRank numRanks true true s =
        (.ok result, s.putTable (.new comId boardId) (s.tableFor (.new comId boardId) .default)) ∧
      ∃ table lines, result = resultOf table lines true true ∧
        ∀ l ∈ lines, ∃ id user, s.users.get? id = some user ∧ l.data.npid = user.npid ∧
          l.data.onlineName = user.onlineName := by
  cases hlines : (List.range' (startRank - 1).toNat (min ((startRank - 1).toNat + numRanks.toNat)
      (s.tableFor (.new comId boardId) .default).sortedScores.length -
        (startRank - 1).toNat)).mapM (lineAt (s.tableFor (.new comId boardId) .default) s.users) with
  | ok lines =>
    have hrun := getScoreRange_run rfl hlines true true
    rw [hrun] at h
    cases h
    refine ⟨hrun, _, lines, rfl, fun l hl => ?_⟩
    obtain ⟨i, hi⟩ := List.getElem?_of_mem hl
    obtain ⟨hlen, hget⟩ := except_mapM_getElem? hlines
    have hlt := (List.getElem?_eq_some_iff.mp hi).1
    rw [hlen] at hlt
    obtain ⟨l', hl', hline⟩ := hget i _ (List.getElem?_eq_getElem hlt)
    rw [hi] at hl'
    cases hl'
    exact lineAt_names hline
  | error p =>
    unfold getScoreRange at h
    rw [Call.bind_ok (getTableOrInsert_run s _ _), Call.bind_ok (Call.read_run _)] at h
    simp only [putTable_users, hlines] at h
    cases h

def GetScoreResultCache.Dumpable (result : GetScoreResultCache) : Prop :=
  ∀ comment ∈ result.comments.getD [], Rpcn.Dumpable comment

theorem dump_returned (hvalid : ∀ id user, s.users.get? id = some user → user.Valid)
    (h : (getScoreRange comId boardId startRank numRanks true true s).1 = .ok result)
    (dumpId : UInt32) (tableInfos : DbBoardInfo) :
    ∃ p : Piece, scoreResultToJson result dumpId tableInfos = .ok p.text ∧
      p.value = dumpValue result dumpId tableInfos ∧ (p.good ↔ result.Dumpable) := by
  obtain ⟨-, table, lines, rfl, hnames⟩ := getScoreRange_returned h
  refine ⟨dumpPiece table lines dumpId tableInfos,
    scoreResultToJson_resultOf table lines dumpId tableInfos,
    value_dumpPiece table lines dumpId tableInfos, ?_⟩
  rw [good_dumpPiece]
  refine Iff.trans ?_ List.forall_mem_map.symm
  refine forall₂_congr fun l hl => ?_
  obtain ⟨id, user, hu, hnpid, hname⟩ := hnames l hl
  obtain ⟨hv, hv'⟩ := hvalid id user hu
  exact good_linePiece (hnpid ▸ hv) (hname ▸ hv')

/-! ## 5. The boards of a title -/

theorem mem_sortedTables (order : TableOrder s) :
    (boardId, table) ∈ order.sortedTables comId ↔
      s.tables.get? (.new comId boardId) = some table := by
  have hstored : s.tables.get? (.new comId boardId) = some table ↔
      (⟨comIdToString comId, boardId⟩, table) ∈ order.tables := by
    rw [← Multiset.mem_coe, order.tables_eq, HashMap.mem_entries]
    rfl
  rw [TableOrder.sortedTables, List.mem_insertionSort, TableOrder.getAllTables, List.mem_filterMap,
    hstored]
  constructor
  · rintro ⟨⟨desc, t⟩, hmem, hfound⟩
    dsimp only at hfound
    split at hfound
    · rename_i hcom
      cases hfound
      rw [← hcom]
      exact hmem
    · cases hfound
  · intro hmem
    exact ⟨_, hmem, if_pos rfl⟩

theorem sortedTables_eq_nil (order : TableOrder s) :
    order.sortedTables comId = [] ↔ order.getAllTables comId = [] := by
  rw [← List.length_eq_zero_iff, ← List.length_eq_zero_iff, TableOrder.sortedTables,
    List.length_insertionSort]

theorem dumpTable_run (hstored : s.tables.get? (.new comId boardId) = some table)
    {tableInfos : DbBoardInfo} {text : List Char}
    (h : (getScoreRange comId boardId 1 tableInfos.rankLimit true true s).1 = .ok result)
    (htext : scoreResultToJson result boardId tableInfos = .ok text) :
    dumpTable comId boardId tableInfos s = (.ok text, s) := by
  have hsame : s.putTable (.new comId boardId) (s.tableFor (.new comId boardId) .default) = s := by
    rw [tableFor, hstored, Option.getD_some, putTable, HashMap.insert_self hstored]
  have hrun := (getScoreRange_returned h).1
  rw [hsame] at hrun
  rw [dumpTable, Call.bind_ok hrun, htext, Call.ofPanic_ok]

theorem dumps_returned (hvalid : ∀ id user, s.users.get? id = some user → user.Valid)
    (results : UInt32 → GetScoreResultCache) : ∀ ts : List (UInt32 × ScoreTableCache),
    (∀ t ∈ ts, s.tables.get? (.new comId t.1) = some t.2) →
    (∀ t ∈ ts, (getScoreRange comId t.1 1 t.2.tableInfo.rankLimit true true s).1 =
      .ok (results t.1)) →
    ∃ ps : List Piece,
      dumpTables comId ts s = (.ok (ps.map (·.text)), s) ∧
      ps.map (·.value) = ts.map (fun t => dumpValue (results t.1) t.1 t.2.tableInfo) ∧
      ((∀ p ∈ ps, p.good) ↔ ∀ t ∈ ts, (results t.1).Dumpable)
  | [], _, _ => ⟨[], rfl, rfl, by simp⟩
  | t :: ts, hstored, hresults => by
      obtain ⟨ps, hrun, hvalues, hgood⟩ := dumps_returned hvalid results ts
        (fun u hu => hstored u (List.mem_cons_of_mem _ hu))
        (fun u hu => hresults u (List.mem_cons_of_mem _ hu))
      have hrange := hresults t List.mem_cons_self
      obtain ⟨p, htext, hvalue, hp⟩ := dump_returned hvalid hrange t.1 t.2.tableInfo
      refine ⟨p :: ps, ?_, ?_, ?_⟩
      · have hfirst := dumpTable_run (hstored t List.mem_cons_self) hrange htext
        rw [dumpTables, Call.bind_ok hfirst, Call.bind_ok hrun]
        rfl
      · rw [List.map_cons, List.map_cons, hvalue, hvalues]
      · rw [List.forall_mem_cons, List.forall_mem_cons, hp, hgood]

def boardsSpacing : Spacing where
  first := ['\n']
  between := ['\n']
  after := []
  last := ['\n']
  none := []
  blank := by decide

theorem comIdScoreToJson_run (order : TableOrder s) {ps : List Piece}
    (hrun : dumpTables comId (order.sortedTables comId) s =
      (.ok (ps.map (·.text)), s)) (hlen : ps.length = (order.sortedTables comId).length) :
    (comIdScoreToJson order comId s).1 = .ok (Piece.arr boardsSpacing ps).text := by
  unfold comIdScoreToJson
  by_cases hnil : order.getAllTables comId = []
  · have hps : ps = [] := by
      rw [(sortedTables_eq_nil order).mpr hnil] at hlen
      exact List.length_eq_zero_iff.mp hlen
    rw [if_pos (by simp [hnil]), hps]
    rfl
  · have hps : ps.map Piece.toChunk ≠ [] := by
      intro h
      rw [List.map_eq_nil_iff.mp h, List.length_nil] at hlen
      exact hnil ((sortedTables_eq_nil order).mp (List.length_eq_zero_iff.mp hlen.symm))
    have hrows := writeRows_eq boardsSpacing [] [] rfl rfl rfl (ps.map Piece.toChunk)
      fun h => absurd h hps
    have hmap : ps.map (·.text) = (ps.map Piece.toChunk).map (rowOf boardsSpacing []) := by
      rw [List.map_map]
      exact List.map_congr_left fun p _ => (List.append_nil _).symm
    rw [if_neg (by simpa using hnil), Call.bind_ok hrun, hmap, Piece.text_arr, ← hrows]
    simp

/-- **The score dumps are valid JSON** exactly if the comments in them can be shown. For every cache
    whose users have valid names:

    * the dump of whatever `get_score_range` returned, with comments and infos, is read as the
      settings of the board and one object for each entry in order, exactly if every comment has no
      control character but the five that are dropped;
    * if `get_score_range` returns for each board of a title, the dump of the title is returned, and
      is read as the array of their dumps, by board id, exactly under the same condition. -/
theorem score_dumps_are_json (s : ScoresCache)
    (hvalid : ∀ id user, s.users.get? id = some user → user.Valid) :
    (∀ comId boardId startRank numRanks result,
      (getScoreRange comId boardId startRank numRanks true true s).1 = .ok result →
      ∀ dumpId tableInfos, ∃ text, scoreResultToJson result dumpId tableInfos = .ok text ∧
        (readJson text = some (dumpValue result dumpId tableInfos) ↔ result.Dumpable)) ∧
    ∀ comId (order : TableOrder s) (results : UInt32 → GetScoreResultCache),
      (∀ t ∈ order.sortedTables comId,
        (getScoreRange comId t.1 1 t.2.tableInfo.rankLimit true true s).1 = .ok (results t.1)) →
      ∃ text, (comIdScoreToJson order comId s).1 = .ok text ∧
        (readJson text = some (.arr ((order.sortedTables comId).map fun t =>
            dumpValue (results t.1) t.1 t.2.tableInfo)) ↔
          ∀ t ∈ order.sortedTables comId, (results t.1).Dumpable) := by
  refine ⟨fun comId boardId startRank numRanks result h dumpId tableInfos => ?_, ?_⟩
  · obtain ⟨p, htext, hvalue, hgood⟩ := dump_returned hvalid h dumpId tableInfos
    refine ⟨p.text, htext, ?_⟩
    rw [← hvalue, p.readJson_iff, hgood]
  · intro comId order results hresults
    obtain ⟨ps, hrun, hvalues, hgood⟩ := dumps_returned hvalid results (order.sortedTables comId)
      (fun t ht => (mem_sortedTables order).mp ht) hresults
    refine ⟨(Piece.arr boardsSpacing ps).text, comIdScoreToJson_run order hrun ?_, ?_⟩
    · simpa using congrArg List.length hvalues
    rw [← hvalues, ← hgood]
    exact (Piece.arr boardsSpacing ps).readJson_iff

def adaServer : ScoreServer :=
  ⟨⟨(∅ : HashMap _ _).insert 7 ⟨"ada", "Ada"⟩, ∅, ∅, fun _ _ h => by simp at h⟩, .new⟩

def afterScore (comment : String) :
    Outcome ErrorType ScorePanic (ErrorType × Option UInt32) × ScoreServer :=
  ScoreServer.recordScore ⟨7, "ada", "Ada", ""⟩ (Vector.replicate 12 0x41)
    ⟨1, 0, 100, comment, [0xAB]⟩ true 5 5 adaServer

def dumpAfter (comment : String) : Option (List Char) :=
  (dumpTable (Vector.replicate 12 0x41) 1 .default (afterScore comment).2.scoreCache).1.toOption

theorem score_dumps_are_json_line_break :
    ∃ text, scoreResultToJson
        ⟨[⟨"ada", "Ada", 0, 0, 100, false, 5⟩], some ["a\nb"], some [[0xAB]], 5, 1⟩ 1 .default =
          .ok text ∧
      readJson text = some (dumpValue
        ⟨[⟨"ada", "Ada", 0, 0, 100, false, 5⟩], some ["a\nb"], some [[0xAB]], 5, 1⟩ 1 .default) := by
  have husers : (afterScore "a\nb").2.scoreCache.users =
      (∅ : HashMap _ _).insert 7 ⟨"ada", "Ada"⟩ := by decide +kernel
  have hvalid : ∀ id user, (afterScore "a\nb").2.scoreCache.users.get? id = some user →
      user.Valid := by
    intro id user h
    rw [husers, HashMap.get?_insert] at h
    split at h
    · cases h
      exact ⟨by decide +kernel, by decide +kernel⟩
    · simp at h
  have hrange : (getScoreRange (Vector.replicate 12 0x41) 1 1 500 true true
      (afterScore "a\nb").2.scoreCache).1 =
      .ok ⟨[⟨"ada", "Ada", 0, 0, 100, false, 5⟩], some ["a\nb"], some [[0xAB]], 5, 1⟩ := by
    decide +kernel
  obtain ⟨text, htext, hread⟩ := (score_dumps_are_json (afterScore "a\nb").2.scoreCache hvalid).1
    _ _ _ _ _ hrange 1 .default
  refine ⟨text, htext, hread.mpr fun comment hc => ?_⟩
  rw [List.mem_singleton.mp hc]
  decide +kernel

/-- **A comment with the character one.** The server records the score, and the dump of the board is
    no JSON. -/
theorem control_comment_breaks_dump :
    (afterScore "\x01").1 = .ok (.noError, some 1) ∧
      (dumpAfter "\x01").map (fun text => (readJson text).isSome) = some false := by
  decide +kernel

end Rpcn
