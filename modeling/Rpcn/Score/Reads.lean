/-
  File:      Rpcn/Score/Reads.lean
  Subject:   READING BACK A SCORE: the rank `insert_score` returns, and the two readers of the score
             cache, `get_score_range` by position and `get_score_ids` by user and character.

  The rank returned is a position counted from one; the range reader goes through the vector, the
  keyed reader through the lookup, and both answer with the position counted from zero, which
  `to_protobuf` raises by one. On a table in order the three agree.
-/
import Rpcn.Score.WellFormed

namespace Rpcn

open Lib DbScoreInfo ScoreTableCache

variable {s : ScoresCache} {comId : ComId} {boardId startRank rank : UInt32} {t : ScoreTableCache}
  {e score : DbScoreInfo} {now : UInt64}

variable {k : Nat} {h : Held}

namespace ScoresCache

/-! ## 1. What the readers show -/

theorem getScoreIds_entry (ht : s.tableFor (.new comId boardId) .default = t) (hf : t.Filed)
    {i : Nat} {user : ScoreUserCache} (he : t.sortedScores[i]? = some e)
    (hu : s.users.get? e.userId = some user) (withComment withGameinfo : Bool) :
    getScoreIds comId boardId [e.key] withComment withGameinfo s =
      (.ok (resultOf t [lineFor user e i] withComment withGameinfo),
        s.putTable (.new comId boardId) t) := by
  refine getScoreIds_run ht ?_ withComment withGameinfo
  rw [List.mapM_cons, lineOf_of_entry hf he hu]
  rfl

/-- **Both readers show the score at its rank**: the range of one rank and the lookup of its user
    and character give one result, its only line is the score's, and the rank sent is `rank`. -/
def ShowsEntry (s : ScoresCache) (comId : ComId) (boardId rank : UInt32) (score : DbScoreInfo)
    (withComment withGameinfo : Bool) : Prop :=
  ∃ user, s.users.get? score.userId = some user ∧
    ∃ result, result = resultOf (s.tableFor (.new comId boardId) .default)
        [lineFor user score (rank.toNat - 1)] withComment withGameinfo ∧
      getScoreRange comId boardId rank 1 withComment withGameinfo s = (.ok result, s) ∧
      getScoreIds comId boardId [score.key] withComment withGameinfo s = (.ok result, s) ∧
      result.serialize.rankArray.map (·.rank) = [rank]

/-- The entries of the ranks `startRank .. startRank + numRanks - 1` that exist. -/
def window (t : ScoreTableCache) (startRank numRanks : UInt32) : List DbScoreInfo :=
  (t.sortedScores.drop (startRank.toNat - 1)).take numRanks.toNat

/-- **A range shows its window**, each entry as the keyed reader shows it. -/
def ShowsWindow (s : ScoresCache) (comId : ComId) (boardId startRank numRanks : UInt32)
    (withComment withGameinfo : Bool) : Prop :=
  ∃ t lines, s.tableFor (.new comId boardId) .default = t ∧
    getScoreRange comId boardId startRank numRanks withComment withGameinfo s =
      (.ok (resultOf t lines withComment withGameinfo), s.putTable (.new comId boardId) t) ∧
    lines.length = (window t startRank numRanks).length ∧
    ∀ (k : Nat) (e : DbScoreInfo), (window t startRank numRanks)[k]? = some e →
      ∃ user line, s.users.get? e.userId = some user ∧
        line = lineFor user e (startRank.toNat - 1 + k) ∧ lines[k]? = some line ∧
        getScoreIds comId boardId [e.key] withComment withGameinfo s =
          (.ok (resultOf t [line] withComment withGameinfo), s.putTable (.new comId boardId) t)

theorem toNat_sub_one {r : UInt32} (h : 1 ≤ r) : (r - 1).toNat = r.toNat - 1 := by
  rw [UInt32.toNat_sub_of_le _ _ h]
  rfl

theorem window_getElem? {numRanks : UInt32} (h : (window t startRank numRanks)[k]? = some e) :
    k < numRanks.toNat ∧ t.sortedScores[startRank.toNat - 1 + k]? = some e := by
  unfold window at h
  rw [List.getElem?_take] at h
  split at h
  · rename_i hk
    rw [List.getElem?_drop] at h
    exact ⟨hk, h⟩
  · cases h

theorem length_window (t : ScoreTableCache) (startRank numRanks : UInt32) :
    (window t startRank numRanks).length =
      min (startRank.toNat - 1 + numRanks.toNat) t.sortedScores.length - (startRank.toNat - 1) := by
  unfold window
  rw [List.length_take, List.length_drop]
  omega

theorem showsWindow (ht : s.tableFor (.new comId boardId) .default = t) (hf : t.Filed)
    (hknown : ∀ e ∈ t.sortedScores, e.userId ∈ s.users.keys) (hstart : 1 ≤ startRank)
    (numRanks : UInt32) (withComment withGameinfo : Bool) :
    s.ShowsWindow comId boardId startRank numRanks withComment withGameinfo := by
  obtain ⟨lines, hlines⟩ := except_mapM_returns
    (List.range' (startRank - 1).toNat
      (min ((startRank - 1).toNat + numRanks.toNat) t.sortedScores.length - (startRank - 1).toNat))
    (f := lineAt t s.users) (by
      intro i hi
      have hlt : i < t.sortedScores.length := by
        rw [List.mem_range'_1] at hi
        omega
      obtain ⟨user, hu⟩ := HashMap.mem_keys.mp (hknown _ (List.getElem_mem hlt))
      exact ⟨_, lineAt_of_entry (List.getElem?_eq_getElem hlt) hu⟩)
  obtain ⟨hlen, hget⟩ := except_mapM_getElem? hlines
  rw [toNat_sub_one hstart] at hlen hget
  refine ⟨t, lines, ht, getScoreRange_run ht hlines withComment withGameinfo, ?_, ?_⟩
  · rw [hlen, List.length_range', length_window]
  · intro k e he
    obtain ⟨hk, hpos⟩ := window_getElem? he
    have hlt := (List.getElem?_eq_some_iff.mp hpos).1
    obtain ⟨user, hu⟩ := HashMap.mem_keys.mp (hknown e (List.mem_of_getElem? hpos))
    obtain ⟨line, hline, hrow⟩ := hget k (startRank.toNat - 1 + k) (by
      rw [List.getElem?_range' (by omega), Nat.one_mul])
    rw [lineAt_of_entry hpos hu] at hrow
    cases hrow
    exact ⟨user, _, hu, rfl, hline, getScoreIds_entry ht hf hpos hu withComment withGameinfo⟩

theorem showsEntry (ht : s.tables.get? (.new comId boardId) = some t) (hf : t.Filed)
    (hrank : 1 ≤ rank) (hscore : t.sortedScores[rank.toNat - 1]? = some score)
    (hknown : score.userId ∈ s.users.keys) (withComment withGameinfo : Bool) :
    s.ShowsEntry comId boardId rank score withComment withGameinfo := by
  have htable : s.tableFor (.new comId boardId) .default = t := by
    rw [tableFor, ht, Option.getD_some]
  have hsame : s.putTable (.new comId boardId) t = s := by
    rw [putTable, HashMap.insert_self ht]
  obtain ⟨user, hu⟩ := HashMap.mem_keys.mp hknown
  have hlt := (List.getElem?_eq_some_iff.mp hscore).1
  refine ⟨user, hu, _, rfl, ?_, ?_, ?_⟩
  · have hone : min ((rank - 1).toNat + (1 : UInt32).toNat) t.sortedScores.length -
        (rank - 1).toNat = 1 := by
      have : (1 : UInt32).toNat = 1 := rfl
      rw [toNat_sub_one hrank]
      omega
    have hlines : (List.range' (rank - 1).toNat (min ((rank - 1).toNat + (1 : UInt32).toNat)
          t.sortedScores.length - (rank - 1).toNat)).mapM (lineAt t s.users) =
        .ok [lineFor user score (rank.toNat - 1)] := by
      rw [hone, toNat_sub_one hrank, List.range'_one, List.mapM_cons, lineAt_of_entry hscore hu]
      rfl
    rw [getScoreRange_run htable hlines, hsame, htable]
  · rw [getScoreIds_entry htable hf hscore hu, hsame, htable]
  · have hr : (rank.toNat - 1).toUInt32 + 1 = rank := by
      rw [← toNat_sub_one hrank, Nat.toUInt32_eq, UInt32.ofNat_toNat, UInt32.sub_add_cancel]
    simp [resultOf, GetScoreResultCache.serialize, ScoreRankDataCache.toProtobuf, lineFor, hr]

/-! ## 2. After an insertion -/

theorem Held.insertScore_no_limit (hw : h.table.Ordered)
    (hl : h.table.tableInfo.rankLimit.toNat = 0) (score : DbScoreInfo) (npid onlineName : String)
    (now : UInt64) : (Held.insertScore score npid onlineName now h).1 = .panic .lastOfEmpty := by
  obtain ⟨t, users⟩ := h
  have hempty : t.sortedScores = [] := List.length_eq_zero_iff.mp (Nat.le_zero.mp (hl ▸ hw.limited))
  unfold Held.insertScore
  rw [Call.bind_ok (Held.onTable_ok (hw.filed.takeOut_run score)),
    Call.bind_ok (Held.onTable_ok (Call.modify_run _ _))]
  have henters : enters score
      { t with sortedScores := others key score t.sortedScores, lastInsert := now } =
      (.panic .lastOfEmpty, { t with
        sortedScores := others key score t.sortedScores, lastInsert := now }) := by
    simp only at hl
    simp [enters, Call.bind_run, hempty, others, hl]
  simp only [Call.bind_run, Held.onTable, Call.within_run, Call.read_run, henters]

theorem insertScore_recorded {s' : ScoresCache} {dbInfo : DbBoardInfo} {npid onlineName : String}
    (hw : (s.tableFor (.new comId boardId) dbInfo).Ordered)
    (hu : (s.tableFor (.new comId boardId) dbInfo).Untied score)
    (hins : insertScore dbInfo comId boardId score npid onlineName now s = (.ok rank, s')) :
    ∃ held, s' = s.afterInsert (.new comId boardId) held ∧
      Held.Recorded ⟨s.tableFor (.new comId boardId) dbInfo, s.users⟩ score now rank held := by
  generalize hheld : Held.mk (s.tableFor (.new comId boardId) dbInfo) s.users = h
  have hwh : h.table.Ordered := hheld ▸ hw
  have huh : h.table.Untied score := hheld ▸ hu
  rcases Nat.eq_zero_or_pos h.table.tableInfo.rankLimit.toNat with hl | hl
  · -- the call has returned, and without a limit it would not
    have hpanic := Held.insertScore_no_limit hwh hl score npid onlineName now
    rw [← hheld] at hpanic
    rw [insertScore_of_held (Prod.ext hpanic rfl)] at hins
    cases congrArg Prod.fst hins
  · obtain ⟨rank', h', hrun, hrec⟩ := Held.insertScore_recorded hwh hl huh npid onlineName now
    rw [insertScore_of_held (hheld ▸ hrun)] at hins
    cases hins
    exact ⟨h', rfl, hrec⟩

theorem tables_afterInsert (s : ScoresCache) (desc : TableDescription) (h : Held) :
    (s.afterInsert desc h).tables.get? desc = some h.table := by
  rw [afterInsert, HashMap.get?_insert, if_pos rfl]

theorem tableFor_afterInsert (s : ScoresCache) (desc : TableDescription) (h : Held)
    (dbInfo : DbBoardInfo) : (s.afterInsert desc h).tableFor desc dbInfo = h.table := by
  rw [tableFor, tables_afterInsert, Option.getD_some]

theorem Held.Recorded.entered {h' : Held} (hr : Held.Recorded h score now rank h') (h1 : 1 ≤ rank)
    (hl : rank ≤ h.table.tableInfo.rankLimit) :
    h'.table.sortedScores[rank.toNat - 1]? = some score ∧ score.userId ∈ h'.users.keys := by
  rcases hr.placed with ⟨i, hi, rfl, hscore, hknown⟩ | ⟨rfl, -, -⟩
  · have hlt := h.table.tableInfo.rankLimit.toNat_lt
    have hnat : (i + 1).toUInt32.toNat = i + 1 := Nat.mod_eq_of_lt (by omega)
    rw [hnat, Nat.add_sub_cancel]
    exact ⟨hscore, hknown⟩
  · rw [UInt32.le_iff_toNat_le] at h1 hl
    rw [UInt32.toNat_add] at h1 hl
    have hlt := h.table.tableInfo.rankLimit.toNat_lt
    have hone : (1 : UInt32).toNat = 1 := rfl
    omega

theorem Held.Recorded.past_limit {h' : Held} (hf : h.table.Filed)
    (hr : Held.Recorded h score now (h.table.tableInfo.rankLimit + 1) h') :
    h'.table.sortedScores = h.table.sortedScores ∧
      h'.table.posOf score.userId score.characterId = none := by
  rcases hr.placed with ⟨i, hi, heq, -, -⟩ | ⟨-, hsame, habsent⟩
  · have hlt := h.table.tableInfo.rankLimit.toNat_lt
    have hnat : (i + 1).toUInt32.toNat = i + 1 := Nat.mod_eq_of_lt (by omega)
    have := congrArg UInt32.toNat heq
    rw [hnat, UInt32.toNat_add] at this
    have hone : (1 : UInt32).toNat = 1 := rfl
    omega
  · refine ⟨hsame, Option.eq_none_iff_forall_ne_some.mpr fun i hi => ?_⟩
    obtain ⟨e, he, hk⟩ := (hr.ordered.filed _ _ _).mp hi
    exact hf.absent habsent e (List.mem_of_getElem? (hsame ▸ he)) hk

/-- **Reads agree with writes.** On every table in order, for every score that ties with nobody
    else's, `insert_score`, if it returns, leaves a table in order; a rank from one to the limit is
    the one both readers show the score at; a rank one past the limit means that nothing has
    changed. And every range of a table in order whose users are known shows the entries of its
    positions, each as the keyed reader shows it. -/
theorem score_reads_agree {s s' : ScoresCache} {dbInfo : DbBoardInfo} {comId : ComId}
    {boardId : UInt32} {score : DbScoreInfo} {npid onlineName : String} {now : UInt64}
    {rank : UInt32} (hw : (s.tableFor (.new comId boardId) dbInfo).Ordered)
    (hu : (s.tableFor (.new comId boardId) dbInfo).Untied score)
    (hins : insertScore dbInfo comId boardId score npid onlineName now s = (.ok rank, s')) :
    (s'.tableFor (.new comId boardId) .default).Ordered ∧
    (1 ≤ rank → rank ≤ (s.tableFor (.new comId boardId) dbInfo).tableInfo.rankLimit →
      ∀ withComment withGameinfo, s'.ShowsEntry comId boardId rank score withComment withGameinfo) ∧
    (rank = (s.tableFor (.new comId boardId) dbInfo).tableInfo.rankLimit + 1 →
      (s'.tableFor (.new comId boardId) .default).posOf score.userId score.characterId = none ∧
      (s'.tableFor (.new comId boardId) .default).sortedScores =
        (s.tableFor (.new comId boardId) dbInfo).sortedScores) ∧
    ∀ c : ScoresCache, (c.tableFor (.new comId boardId) .default).Ordered →
      (∀ e ∈ (c.tableFor (.new comId boardId) .default).sortedScores, e.userId ∈ c.users.keys) →
      ∀ startRank numRanks withComment withGameinfo, 1 ≤ startRank →
        c.ShowsWindow comId boardId startRank numRanks withComment withGameinfo := by
  obtain ⟨held, rfl, hrec⟩ := insertScore_recorded hw hu hins
  rw [tableFor_afterInsert]
  refine ⟨hrec.ordered, ?_, ?_, ?_⟩
  · intro h1 hl withComment withGameinfo
    obtain ⟨hscore, hknown⟩ := hrec.entered h1 hl
    exact showsEntry (tables_afterInsert s _ held) hrec.ordered.filed h1 hscore hknown withComment withGameinfo
  · rintro rfl
    obtain ⟨hsame, habsent⟩ := Held.Recorded.past_limit hw.filed hrec
    exact ⟨habsent, hsame⟩
  · intro c hc hknown startRank numRanks withComment withGameinfo hstart
    exact showsWindow rfl hc.filed hknown hstart numRanks withComment withGameinfo

/-! ## 3. What the order of the table does not give -/

def descending (k : Nat) : DbScoreInfo := scoreOf k (-(k : Int)) 0

theorem descending_before (h : -(k : Int) < e.score) :
    Before 0 e (descending k) := cmp_better (by simpa [Better])

structure Filled (k : Nat) (info : DbBoardInfo) (h : Held) : Prop where
  wf : h.table.Wf h.users
  info : h.table.tableInfo = info
  length : h.table.sortedScores.length = k
  user : ∀ e ∈ h.table.sortedScores, e.userId < k
  score : ∀ e ∈ h.table.sortedScores, -(k : Int) < e.score

section Filled

variable {k : Nat} {info : DbBoardInfo} {h : Held}

theorem Filled.key_ne (hf : Filled k info h) :
    ∀ e ∈ h.table.sortedScores, e.key ≠ (descending k).key := by
  intro e he hk
  have huser : e.userId = k := (Prod.mk.inj hk).1
  exact absurd (hf.user e he) (by rw [huser]; exact Int.lt_irrefl _)

theorem Filled.untied (hf : Filled k info h) (hmode : info.sortMode = 0) :
    h.table.Untied (descending k) := by
  intro e he _ htie
  rw [hf.info, hmode, cmp_eq_eq_iff] at htie
  exact htie.2 (descending_before (hf.score e he))

theorem Filled.record_eq (hf : Filled k info h) (hmode : info.sortMode = 0) (n : Nat) :
    record key (Before h.table.tableInfo.sortMode) n (descending k)
      h.table.sortedScores = (h.table.sortedScores ++ [descending k]).take n := by
  have hafter : ∀ e ∈ h.table.sortedScores, ¬ Before 0 (descending k) e := by
    intro e he hbefore
    exact Std.Irrefl.irrefl e (IsTrans.trans _ _ _ (descending_before (hf.score e he)) hbefore)
  have hend := orderedInsert_append_of_not_lt [] hafter
  rw [List.append_nil, List.orderedInsert_nil] at hend
  unfold record
  rw [others_eq_self hf.key_ne, hf.info, hmode, hend]

theorem exists_filled (hmode : info.sortMode = 0) (hk : k ≤ info.rankLimit.toNat) :
    ∃ h, Filled k info h := by
  induction k with
  | zero =>
    refine ⟨⟨.fromDb info, ∅⟩, wf_fromDb _ info, rfl, rfl, ?_, ?_⟩ <;>
      simp [fromDb]
  | succ k ih =>
    obtain ⟨h, hf⟩ := ih (by omega)
    obtain ⟨rank, h', -, hins⟩ := Held.insertScore_run hf.wf (by rw [hf.info]; omega)
      (hf.untied hmode) "" "" 0
    have hscores : h'.table.sortedScores = h.table.sortedScores ++ [descending k] := by
      rw [hins.scores, hf.record_eq hmode, hf.info, List.take_of_length_le]
      simp only [List.length_append, hf.length, List.length_singleton]
      exact hk
    have hmem : ∀ e ∈ h'.table.sortedScores,
        e ∈ h.table.sortedScores ∨ e = descending k := by
      intro e he
      rw [hscores] at he
      simpa using he
    refine ⟨h', hins.wf, hins.info.trans hf.info, ?_, ?_, ?_⟩
    · simp [hscores, hf.length]
    · intro e he
      rcases hmem e he with hold | rfl
      · exact Int.lt_trans (hf.user e hold) (Int.ofNat_lt.mpr (Nat.lt_succ_self k))
      · exact Int.lt_add_one_of_le (le_refl _)
    · intro e he
      rcases hmem e he with hold | rfl
      · have := hf.score e hold
        omega
      · simp [descending, scoreOf]

theorem Filled.turned_away (hf : Filled k info h) (hmode : info.sortMode = 0)
    (hfull : info.rankLimit.toNat = k) (hpos : 0 < k) :
    ∃ h', Held.insertScore (descending k) "" "" 0 h = (.ok (info.rankLimit + 1), h') ∧
      h'.table.sortedScores = h.table.sortedScores := by
  obtain ⟨rank, h', hrun, hins⟩ := Held.insertScore_run hf.wf (by rw [hf.info]; omega)
    (hf.untied hmode) "" "" 0
  have hscores : h'.table.sortedScores = h.table.sortedScores := by
    rw [hins.scores, hf.record_eq hmode, hf.info, hfull, ← hf.length, List.take_left]
  rcases hins.placed with ⟨i, -, hi⟩ | ⟨hrank, hsame, -⟩
  · rw [hscores] at hi
    exact absurd rfl (hf.key_ne _ (List.mem_of_getElem? hi))
  · rw [hf.info] at hrank
    exact ⟨h', hrank ▸ hrun, hsame⟩

end Filled

def pairTable : ScoreTableCache where
  sortedScores := [⟨1, 0, 10, none, none, none, 5⟩, ⟨1, 1, 10, none, none, none, 5⟩]
  npidLookup := (HashMap.insert2 ∅ 1 0 0).insert2 1 1 1
  tableInfo := .default
  lastInsert := 0

theorem pairTable_ordered : pairTable.Ordered := by
  refine ⟨by decide, by decide, ?_⟩
  intro userId characterId i
  have hnone : HashMap.get2? (∅ : HashMap UserId (HashMap Int Nat)) userId characterId = none := rfl
  unfold posOf pairTable
  simp only [HashMap.get2?_insert2, hnone]
  rcases i with _ | _ | i <;> simp [key] <;> grind

def cacheOf (h : Held) : ScoresCache where
  tables := HashMap.insert ∅ (.new titleComId 1) h.table
  users := h.users

theorem tableFor_cacheOf (h : Held) (dbInfo : DbBoardInfo) :
    (cacheOf h).tableFor (.new titleComId 1) dbInfo = h.table := by
  simp [cacheOf, tableFor]

def adaKnown : HashMap UserId ScoreUserCache := HashMap.insert ∅ 1 ⟨"ada", "ada"⟩

def thirdScore : DbScoreInfo := scoreOf 2 20 6

theorem score_reads_agree_pair :
    pairTable.Ordered ∧ ∃ s', insertScore .default titleComId 1 thirdScore "bob" "bob" 0
        (cacheOf ⟨pairTable, adaKnown⟩) = (.ok 1, s') ∧
      s'.ShowsEntry titleComId 1 1 thirdScore true true := by
  have htable := tableFor_cacheOf ⟨pairTable, adaKnown⟩ .default
  have huntied : pairTable.Untied thirdScore := by decide
  have hins : (insertScore .default titleComId 1 thirdScore "bob" "bob" 0
      (cacheOf ⟨pairTable, adaKnown⟩)).1 = .ok 1 := by decide +kernel
  refine ⟨pairTable_ordered, _, Prod.ext hins rfl, ?_⟩
  exact (score_reads_agree (htable ▸ pairTable_ordered) (htable ▸ huntied)
    (Prod.ext hins rfl)).2.1 (by decide) (by decide) true true

/-- **Two scores that are not read back.** Of a table in order whose user is not known, the range
    of the score just inserted and the one behind it panics. And on a full table with the largest
    limit, the score turned away is given rank zero, which is within the limit. -/
theorem unread_scores :
    (pairTable.Ordered ∧ pairTable.Untied thirdScore ∧
      ∃ s', insertScore .default titleComId 1 thirdScore "bob" "bob" 0 (cacheOf ⟨pairTable, ∅⟩) =
          (.ok 1, s') ∧
        (getScoreRange titleComId 1 1 2 false false s').1 = .panic .userMissing) ∧
    ∃ s s' score, (s.tableFor (.new titleComId 1) .default).Ordered ∧
      (s.tableFor (.new titleComId 1) .default).Untied score ∧
      (s.tableFor (.new titleComId 1) .default).tableInfo.rankLimit = 0xFFFFFFFF ∧
      insertScore .default titleComId 1 score "" "" 0 s = (.ok 0, s') ∧
      score ∉ (s'.tableFor (.new titleComId 1) .default).sortedScores := by
  refine ⟨⟨pairTable_ordered, by decide, _, Prod.ext (by decide +kernel) rfl, by decide +kernel⟩, ?_⟩
  generalize hinfo : { DbBoardInfo.default with rankLimit := 0xFFFFFFFF } = info
  have hmode : info.sortMode = 0 := by rw [← hinfo]; rfl
  have hlimit : info.rankLimit = 0xFFFFFFFF := by rw [← hinfo]
  have hpos : 0 < info.rankLimit.toNat := by rw [hlimit]; decide
  obtain ⟨h, hf⟩ := exists_filled hmode (le_refl info.rankLimit.toNat)
  obtain ⟨h', hrun, hsame⟩ := hf.turned_away hmode rfl hpos
  have hheld : Held.insertScore (descending info.rankLimit.toNat) "" "" 0
      ⟨(cacheOf h).tableFor (.new titleComId 1) .default, (cacheOf h).users⟩ = (.ok 0, h') := by
    have hzero : info.rankLimit + 1 = 0 := by rw [hlimit]; rfl
    rw [tableFor_cacheOf, ← hzero]
    exact hrun
  refine ⟨cacheOf h, _, descending info.rankLimit.toNat, ?_, ?_, ?_, insertScore_of_held hheld, ?_⟩
  · rw [tableFor_cacheOf]
    exact hf.wf.ordered
  · rw [tableFor_cacheOf]
    exact hf.untied hmode
  · rw [tableFor_cacheOf, hf.info, hlimit]
  · rw [tableFor_afterInsert, hsame]
    exact fun hmem => hf.key_ne _ hmem rfl

end ScoresCache

end Rpcn
