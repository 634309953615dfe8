/-
  File:      Rpcn/Score/Mirror.lean
  Subject:   DOES THE SCORE CACHE MIRROR THE DATABASE?

  The database keeps every row, the cache the first `rank_limit` of them. A score that is recorded
  again may move down: with a later timestamp for the same score, or with any score where the board
  takes every update. The cache then gives the place back to the same user, the database to the
  best row the cache has forgotten.
-/
import Rpcn.Score.DatabaseSpec
import Rpcn.Score.Server

namespace Rpcn

open Lib Np2Structs Database DbScoreInfo ScoresCache

variable (desc' : TableDescription) (comId : ComId) {e : DbScoreInfo} {α : Type}

variable {db : Database} {s : ScoreServer} {score : DbScoreInfo}

namespace ScoreServer

/-! ## 1. The mirror -/

def shown (s : ScoreServer) (desc : TableDescription) : List DbScoreInfo :=
  (s.scoreCache.tableFor desc (s.db.boardInfo desc)).sortedScores

/-- **The cache mirrors the database**: for every board, and every order in which the query may
    meet its rows, the cache lists what the query would load. All columns agree but the id of the
    game data, which the two stores receive at different times. -/
def Mirrored (s : ScoreServer) : Prop :=
  ∀ (desc : TableDescription) (scan : List DbScoreInfo),
    (scan : Multiset DbScoreInfo) = s.db.rowsOf desc →
    (s.shown desc).map DbScoreInfo.withoutData =
      (Database.getScoresFromTable (s.db.boardInfo desc) scan).map DbScoreInfo.withoutData

abbrev RankedBefore (db : Database) (desc : TableDescription) : DbScoreInfo → DbScoreInfo → Prop :=
  DbScoreInfo.Before (db.boardInfo desc).sortMode

abbrev limitOf (db : Database) (desc : TableDescription) : Nat :=
  (db.boardInfo desc).rankLimit.toNat

def Agrees (s : ScoreServer) (desc : TableDescription) : Prop :=
  ∃ l, Listing (RankedBefore s.db desc) (s.db.standings desc) l ∧
    (s.shown desc).map DbScoreInfo.withoutData = l.take (limitOf s.db desc)

theorem listing_of_scan {desc : TableDescription} {scan : List DbScoreInfo}
    (hscan : (scan : Multiset DbScoreInfo) = db.rowsOf desc)
    (hstamps : ((db.standings desc).map timestamp).Nodup) :
    Listing (RankedBefore db desc) (db.standings desc)
      ((scan.insertionSort (OrderBy (db.boardInfo desc).sortMode)).map
        withoutData) := by
  have hn : (scan.map timestamp).Nodup := by
    unfold standings at hstamps
    rw [← hscan, Multiset.map_coe, Multiset.map_coe, Multiset.coe_nodup, List.map_map] at hstamps
    exact hstamps
  refine ⟨?_, ?_⟩
  · have hperm := List.perm_insertionSort (OrderBy (db.boardInfo desc).sortMode) scan
    unfold standings
    rw [← hscan, Multiset.map_coe, Multiset.coe_eq_coe]
    exact hperm.map _
  · exact List.pairwise_map.mpr (ranked_insertionSort hn)

theorem mirrored_iff (hstamps : ∀ desc, ((s.db.standings desc).map timestamp).Nodup) :
    s.Mirrored ↔ ∀ desc, s.Agrees desc := by
  refine ⟨fun h desc => ?_, fun h desc scan hscan => ?_⟩
  · obtain ⟨scan, hscan⟩ := Quot.exists_rep (s.db.rowsOf desc)
    refine ⟨_, listing_of_scan hscan (hstamps desc), ?_⟩
    rw [h desc scan hscan, getScoresFromTable, List.map_take]
  · obtain ⟨l, hl, hshown⟩ := h desc
    rw [hshown, hl.unique (listing_of_scan hscan (hstamps desc)), getScoresFromTable,
      List.map_take]

/-! ## 2. The invariant -/

structure Steady (s : ScoreServer) : Prop where
  wf : s.scoreCache.Wf
  info : ∀ desc t, s.scoreCache.tables.get? desc = some t → t.tableInfo = s.db.boardInfo desc
  cached : ∀ desc, s.scoreCache.tables.get? desc = none → s.db.boardInfo desc = .default
  limit : ∀ desc, 1 ≤ limitOf s.db desc
  stamps : ∀ desc, ((s.db.standings desc).map DbScoreInfo.timestamp).Nodup

structure Mirrors (s : ScoreServer) : Prop extends Steady s where
  agrees : ∀ desc, s.Agrees desc

theorem Steady.tableFor_default (h : Steady s) (desc : TableDescription) :
    s.scoreCache.tableFor desc .default = s.scoreCache.tableFor desc (s.db.boardInfo desc) := by
  unfold tableFor
  cases ht : s.scoreCache.tables.get? desc with
  | some t => rfl
  | none => rw [h.cached desc ht]

theorem Steady.tableInfo (h : Steady s) (desc : TableDescription) :
    (s.scoreCache.tableFor desc (s.db.boardInfo desc)).tableInfo = s.db.boardInfo desc := by
  unfold tableFor
  cases ht : s.scoreCache.tables.get? desc with
  | some t => exact h.info desc t ht
  | none => rfl

/-! ## 3. Steps that leave the ranking alone -/

theorem Mirrors.sameStandings (h : Mirrors s)
    (hinfo : ∀ desc, db.boardInfo desc = s.db.boardInfo desc)
    (hst : ∀ desc, db.standings desc = s.db.standings desc) :
    Mirrors { s with db := db } where
  wf := h.wf
  info := fun desc t ht => by rw [hinfo]; exact h.info desc t ht
  cached := fun desc ht => by rw [hinfo]; exact h.cached desc ht
  limit := fun desc => by unfold limitOf; rw [hinfo]; exact h.limit desc
  stamps := fun desc => by rw [hst]; exact h.stamps desc
  agrees := fun desc => by
    have := h.agrees desc
    unfold Agrees shown at this ⊢
    simp only [RankedBefore, limitOf, hinfo, hst] at this ⊢
    exact this

theorem Mirrors.sameScores (h : Mirrors s) (desc : TableDescription) {scores : List DbScoreInfo}
    (hs : scores.map withoutData =
      (s.scoreCache.tableFor desc .default).sortedScores.map withoutData) :
    Mirrors ⟨s.db, s.scoreCache.putTable desc
      { s.scoreCache.tableFor desc .default with sortedScores := scores }⟩ := by
  have hw : ScoreTableCache.Wf s.scoreCache.users
      { s.scoreCache.tableFor desc .default with sortedScores := scores } :=
    (h.wf.tableFor desc .default).congr hs
  rw [h.tableFor_default] at hs hw ⊢
  refine ⟨⟨h.wf.putTable desc hw, ?_, ?_, h.limit, h.stamps⟩, ?_⟩
  · intro desc' t ht
    simp only [putTable, HashMap.get?_insert] at ht
    split at ht
    next e =>
      cases ht
      exact e ▸ h.tableInfo desc
    next => exact h.info desc' t ht
  · intro desc' ht
    simp only [putTable, HashMap.get?_insert] at ht
    split at ht
    next => cases ht
    next => exact h.cached desc' ht
  · intro desc'
    obtain ⟨l, hl, hshown⟩ := h.agrees desc'
    refine ⟨l, hl, ?_⟩
    rw [← hshown]
    unfold shown tableFor putTable
    simp only [HashMap.get?_insert]
    split
    next e =>
      subst e
      exact hs
    next => rfl

/-! ## 4. A score recorded -/

/-- **The condition on a score recorded**: if the row it replaces is among the first `rank_limit`
    rows of the board, the new row ranks before every row beyond them. -/
def StaysAhead (db : Database) (desc : TableDescription) (score : DbScoreInfo) : Prop :=
  ∀ old ∈ db.standings desc, old.key = score.key →
    place (RankedBefore db desc) (db.standings desc) old < limitOf db desc →
    ∀ rival ∈ db.standings desc,
      limitOf db desc ≤ place (RankedBefore db desc) (db.standings desc) rival →
      RankedBefore db desc score rival

theorem staysAhead_iff {desc : TableDescription} {l : List DbScoreInfo}
    (hl : Listing (RankedBefore db desc) (db.standings desc) l) :
    StaysAhead db desc score ↔
      (∀ e ∈ l.take (limitOf db desc), e.key ≠ score.key) ∨
        ∀ e ∈ l.drop (limitOf db desc), RankedBefore db desc score e := by
  refine ⟨fun h => ?_, ?_⟩
  · by_cases hnone : ∀ e ∈ l.take (limitOf db desc), e.key ≠ score.key
    · exact Or.inl hnone
    · push Not at hnone
      obtain ⟨old, hold, hk⟩ := hnone
      obtain ⟨hmem, hplace⟩ := hl.mem_take_iff.mp hold
      refine Or.inr fun rival hr => ?_
      obtain ⟨hmem', hplace'⟩ := hl.mem_drop_iff.mp hr
      exact h old hmem hk hplace rival hmem' hplace'
  · rintro (hnone | hall) old hmem hk hplace rival hmem' hplace'
    · exact absurd hk (hnone old (hl.mem_take_iff.mpr ⟨hmem, hplace⟩))
    · exact hall rival (hl.mem_drop_iff.mpr ⟨hmem', hplace'⟩)

theorem Mirrors.mem_standings (h : Mirrors s) {desc : TableDescription} (he : e ∈ s.shown desc) :
    e.withoutData ∈ s.db.standings desc := by
  obtain ⟨l, hl, hshown⟩ := h.agrees desc
  have hmem : e.withoutData ∈ l.take (limitOf s.db desc) := hshown ▸ List.mem_map_of_mem he
  exact hl.mem.mp (List.mem_of_mem_take hmem)

theorem Mirrors.untied (h : Mirrors s) {desc : TableDescription}
    (hfresh : ∀ e ∈ s.db.standings desc, e.timestamp ≠ score.timestamp) :
    (s.scoreCache.tableFor desc (s.db.boardInfo desc)).Untied score := by
  intro e he _ heq
  rw [cmp_eq_eq_iff] at heq
  have hne : e.timestamp ≠ score.timestamp := hfresh e.withoutData (h.mem_standings he)
  rcases before_or_before _ hne with hb | hb
  · exact heq.2 hb
  · exact heq.1 hb

def recordedState (s : ScoreServer) (desc : TableDescription) (score : DbScoreInfo)
    (createMissing : Bool) (hu : score.userId ∈ (s.db.withBoard desc createMissing).accounts.keys)
    (held : ScoresCache.Held) : ScoreServer where
  db := (s.db.withBoard desc createMissing).writeScore desc score hu
  scoreCache := s.scoreCache.afterInsert desc held

section Recorded

variable {s : ScoreServer} {desc : TableDescription} {score : DbScoreInfo} {createMissing : Bool}
  {hu : score.userId ∈ (s.db.withBoard desc createMissing).accounts.keys}
  {held : ScoresCache.Held} {insertTime : UInt64} {rank : UInt32}

@[simp] theorem boardInfo_recordedState :
    (s.recordedState desc score createMissing hu held).db.boardInfo desc' =
      s.db.boardInfo desc' := by
  simp [recordedState]

theorem standings_recordedState :
    (s.recordedState desc score createMissing hu held).db.standings desc' =
      if desc = desc' then
        score.withoutData ::ₘ (s.db.standings desc').filter fun e => e.key ≠ score.key
      else s.db.standings desc' := by
  simp [recordedState, standings_writeScore]

theorem shown_recordedState :
    (s.recordedState desc score createMissing hu held).shown desc' =
      if desc' = desc then held.table.sortedScores else s.shown desc' := by
  unfold shown tableFor
  rw [boardInfo_recordedState]
  simp only [recordedState, afterInsert, HashMap.get?_insert]
  split <;> rfl

theorem Mirrors.steady_recorded (h : Mirrors s)
    (hfresh : ∀ e ∈ s.db.standings desc, e.timestamp ≠ score.timestamp)
    (hins : Held.Inserted
      ⟨s.scoreCache.tableFor desc (s.db.boardInfo desc), s.scoreCache.users⟩ score insertTime rank
      held) : Steady (s.recordedState desc score createMissing hu held) := by
  refine ⟨h.wf.afterInsert desc hins, ?_, ?_, ?_, ?_⟩
  · intro desc' t ht
    rw [boardInfo_recordedState]
    simp only [recordedState, afterInsert, HashMap.get?_insert] at ht
    split at ht
    next e =>
      cases ht
      rw [hins.info, e]
      exact h.tableInfo desc
    next => exact h.info desc' t ht
  · intro desc' ht
    rw [boardInfo_recordedState]
    simp only [recordedState, afterInsert, HashMap.get?_insert] at ht
    split at ht
    next => cases ht
    next => exact h.cached desc' ht
  · intro desc'
    unfold limitOf
    rw [boardInfo_recordedState]
    exact h.limit desc'
  · intro desc'
    rw [standings_recordedState]
    split
    next e =>
      subst e
      rw [Multiset.map_cons, Multiset.nodup_cons]
      refine ⟨?_, Multiset.nodup_of_le (Multiset.map_le_map (Multiset.filter_le _ _))
        (h.stamps desc)⟩
      intro hmem
      obtain ⟨e, he, hts⟩ := Multiset.mem_map.mp hmem
      exact hfresh e (Multiset.mem_of_mem_filter he) hts
    next => exact h.stamps desc'

theorem Mirrors.agrees_other (h : Mirrors s) {desc' : TableDescription} (hne : desc' ≠ desc) :
    (s.recordedState desc score createMissing hu held).Agrees desc' := by
  obtain ⟨l, hl, hshown⟩ := h.agrees desc'
  unfold Agrees RankedBefore limitOf
  rw [boardInfo_recordedState, standings_recordedState, shown_recordedState, if_neg hne,
    if_neg hne.symm]
  exact ⟨l, hl, hshown⟩

theorem Mirrors.agrees_recorded_iff (h : Mirrors s) (hdata : score.withoutData = score)
    (hfresh : ∀ e ∈ s.db.standings desc, e.timestamp ≠ score.timestamp)
    (hins : Held.Inserted
      ⟨s.scoreCache.tableFor desc (s.db.boardInfo desc), s.scoreCache.users⟩ score insertTime rank
      held) :
    (s.recordedState desc score createMissing hu held).Agrees desc ↔
      StaysAhead s.db desc score := by
  obtain ⟨l, hl, hshown⟩ := h.agrees desc
  have hcomp : ∀ e ∈ others key score l,
      RankedBefore s.db desc score e ∨ RankedBefore s.db desc e score := by
    intro e he
    exact before_or_before _ (hfresh e (hl.mem.mp (mem_others.mp he).1)).symm
  have hkeys : (l.map key).Nodup := by
    have hnodup := s.db.nodup_keys desc
    have hrows : ((s.db.standings desc).map key).Nodup := by
      unfold standings
      rw [Multiset.map_map]
      exact hnodup
    rw [← hl.rows_eq, Multiset.map_coe, Multiset.coe_nodup] at hrows
    exact hrows
  -- what the two stores list afterwards, written with the ranking before
  have hnew : Listing (RankedBefore s.db desc)
      (score ::ₘ (s.db.standings desc).filter fun e => e.key ≠ score.key)
      ((others key score l).orderedInsert (RankedBefore s.db desc) score) :=
    hl.record hcomp
  have hcache : held.table.sortedScores.map withoutData =
      record key (RankedBefore s.db desc) (limitOf s.db desc) score
        (l.take (limitOf s.db desc)) := by
    rw [hins.scores, h.tableInfo, map_record (f := withoutData) (fun _ => rfl)
      fun _ _ => Iff.rfl, hdata]
    exact congrArg _ hshown
  rw [staysAhead_iff hl, ← record_take_iff (limitOf s.db desc) hl.ranked hkeys hcomp]
  unfold Agrees RankedBefore limitOf
  rw [boardInfo_recordedState, standings_recordedState, shown_recordedState, if_pos rfl,
    if_pos rfl, hdata, hcache]
  refine ⟨?_, fun heq => ⟨_, hnew, heq⟩⟩
  rintro ⟨l', hl', heq⟩
  rw [hl'.unique hnew] at heq
  exact heq

end Recorded

/-! ## 5. The commands -/

theorem onDb_state (c : DbCall α) (s : ScoreServer) :
    (onDb c s).2 = { s with db := (c s.db).2 } := by
  unfold onDb
  rcases c s.db with ⟨o, db⟩
  cases o <;> rfl

theorem getBoardInfos_state (boardId : UInt32) (createMissing : Bool) (s : ScoreServer) :
    (getBoardInfos comId boardId createMissing s).2 =
      { s with db := s.db.withBoard (.new comId boardId) createMissing } := by
  unfold getBoardInfos
  rcases s.db.getBoardInfos_cases (.new comId boardId) createMissing with ⟨_, hrun⟩ | ⟨_, hrun⟩
  · rw [Call.bind_ok (onDb_ok hrun)]
    rfl
  · rw [Call.bind_ok (onDb_err hrun)]
    rfl

theorem setScoreData_state (userId : UserId) (characterId : Int) (boardId : UInt32) (score : Int)
    (dataId : UInt64) (s : ScoreServer) :
    (setScoreData comId userId characterId boardId score dataId s).2 = { s with
      db := (Database.setScoreData comId userId characterId boardId score dataId s.db).2 } := by
  rw [← onDb_state]
  unfold setScoreData
  rw [Call.bind_run]
  rcases onDb (Database.setScoreData comId userId characterId boardId score dataId) s with ⟨o, s'⟩
  cases o <;> rfl

theorem Mirrors.recordScore_cases (h : Mirrors s) (cinfo : ClientInfo) (comId : ComId)
    (req : RecordScoreRequest) (createMissing : Bool) {now : UInt64} (insertTime : UInt64)
    (hfresh : ∀ e ∈ s.db.standings (.new comId req.boardId), e.timestamp ≠ now) :
    (s.db.Takes (.new comId req.boardId) (scoreInfos cinfo req now) createMissing ∧
      ∃ hu held rank, (recordScore cinfo comId req createMissing now insertTime s).2 =
          s.recordedState (.new comId req.boardId) (scoreInfos cinfo req now) createMissing hu held ∧
        Held.Inserted
          ⟨s.scoreCache.tableFor (.new comId req.boardId) (s.db.boardInfo (.new comId req.boardId)),
            s.scoreCache.users⟩ (scoreInfos cinfo req now) insertTime rank held) ∨
    (¬ s.db.Takes (.new comId req.boardId) (scoreInfos cinfo req now) createMissing ∧
      (recordScore cinfo comId req createMissing now insertTime s).2 =
        { s with db := s.db.withBoard (.new comId req.boardId) createMissing }) := by
  unfold recordScore
  rcases s.db.recordScore_cases comId req.boardId (scoreInfos cinfo req now) createMissing with
    ⟨htakes, hu, hdb⟩ | ⟨hnot, e, hdb⟩
  · have hun : (s.scoreCache.tableFor (.new comId req.boardId)
        (s.db.boardInfo (.new comId req.boardId))).Untied (scoreInfos cinfo req now) :=
      h.untied hfresh
    obtain ⟨rank, held, hrun, hins⟩ := insertScore_run (h.wf.tableFor _ _)
      (by rw [h.tableInfo]; exact h.limit _) hun cinfo.npid cinfo.onlineName insertTime
    refine Or.inl ⟨htakes, hu, held, rank, ?_, hins⟩
    rw [Call.bind_ok (onDb_ok hdb)]
    simp only [onCache, Call.bind_run, hrun, Call.pure_run]
    rfl
  · refine Or.inr ⟨hnot, ?_⟩
    rw [Call.bind_ok (onDb_err hdb)]
    cases e <;> rfl

/-- **The condition on a command**: a score that the database takes stays ahead. -/
def MirrorGuard (s : ScoreServer) : ServerOp → Prop
  | .recordScore cinfo comId req createMissing now _ =>
    s.db.Takes (.new comId req.boardId) (scoreInfos cinfo req now) createMissing →
      StaysAhead s.db (.new comId req.boardId) (scoreInfos cinfo req now)
  | _ => True

theorem Mirrors.cacheCall (h : Mirrors s) {op : ScoreOp} (hop : op.isInsert = false) :
    Mirrors { s with scoreCache := (op.call s.scoreCache).2 } := by
  obtain ⟨-, desc, scores, hsame, hs⟩ := h.wf.call_table hop
  rw [hs]
  exact h.sameScores desc hsame

theorem Mirrors.withBoard (h : Mirrors s) (desc : TableDescription) (createMissing : Bool) :
    Mirrors { s with db := s.db.withBoard desc createMissing } :=
  h.sameStandings (fun _ => boardInfo_withBoard ..)
    fun _ => standings_withBoard ..

theorem Mirrors.call (h : Mirrors s) {op : ServerOp} (hp : op.Possible s) :
    Steady (op.call s).2 ∧ ((∀ desc, (op.call s).2.Agrees desc) ↔ MirrorGuard s op) := by
  have hkeeps : Mirrors (op.call s).2 → MirrorGuard s op →
      Steady (op.call s).2 ∧ ((∀ desc, (op.call s).2.Agrees desc) ↔ MirrorGuard s op) :=
    fun hm hg => ⟨hm.toSteady, iff_of_true hm.agrees hg⟩
  cases op with
  | recordScore cinfo comId req createMissing now insertTime =>
    have hfresh : ∀ e ∈ s.db.standings (.new comId req.boardId), e.timestamp ≠ now := by
      intro e he
      obtain ⟨row, hrow, rfl⟩ := Multiset.mem_map.mp he
      exact hp row hrow
    unfold MirrorGuard at hkeeps ⊢
    rw [ServerOp.call, Call.mapOk_state] at hkeeps ⊢
    rcases h.recordScore_cases cinfo comId req createMissing insertTime hfresh with
      ⟨htakes, hu, held, rank, hstate, hins⟩ | ⟨hnot, hstate⟩
    · rw [hstate]
      have hiff : (s.recordedState (.new comId req.boardId) (scoreInfos cinfo req now)
          createMissing hu held).Agrees (.new comId req.boardId) ↔
          StaysAhead s.db (.new comId req.boardId) (scoreInfos cinfo req now) :=
        h.agrees_recorded_iff rfl hfresh hins
      refine ⟨h.steady_recorded hfresh hins, fun ha _ => hiff.mp (ha _), fun hg desc => ?_⟩
      by_cases e : desc = .new comId req.boardId
      · subst e
        exact hiff.mpr (hg htakes)
      · exact h.agrees_other e
    · rw [hstate] at hkeeps ⊢
      exact hkeeps (h.withBoard _ _) fun ht => absurd ht hnot
  | getBoardInfos comId boardId createMissing =>
    refine hkeeps ?_ trivial
    rw [ServerOp.call, Call.mapOk_state, getBoardInfos_state]
    exact h.withBoard _ _
  | cache op =>
    refine hkeeps ?_ trivial
    rw [ServerOp.call, Call.mapOk_state]
    exact h.cacheCall hp
  | setScoreData comId userId characterId boardId score dataId =>
    refine hkeeps ?_ trivial
    rw [ServerOp.call, Call.mapOk_state, setScoreData_state]
    rcases s.db.setScoreData_keeps comId userId characterId boardId score dataId with
      hsame | ⟨k, c, hu, hc, hdata⟩
    · rw [hsame]
      exact h
    · rw [hdata]
      exact h.sameStandings (fun _ => rfl) fun desc => s.db.standings_writeData dataId hc hu desc

/-! ## 6. Start and runs -/

/-- **A database to start from**: `boards` lists its boards and `scans` their rows, in any order;
    every board lists at least one score, every row belongs to a board, and no two rows of a board
    have one timestamp. -/
structure Loadable (db : Database) (boards : List TableDescription)
    (scans : TableDescription → List DbScoreInfo) : Prop where
  boards_iff : ∀ desc, desc ∈ boards ↔ db.scoreTable.get? desc ≠ none
  scans_eq : ∀ desc, (scans desc : Multiset DbScoreInfo) = db.rowsOf desc
  limit : ∀ desc, 1 ≤ limitOf db desc
  boarded : ∀ desc, db.scoreTable.get? desc = none → db.rowsOf desc = 0
  stamps : ∀ desc, ((db.rowsOf desc).map DbScoreInfo.timestamp).Nodup

/-- The server once `initialize_score` has run. -/
def started (db : Database) (boards : List TableDescription)
    (scans : TableDescription → List DbScoreInfo) (now : UInt64) : ScoreServer :=
  ⟨db, initializeScore db boards scans now⟩

section Start

variable {db : Database} {boards : List TableDescription}
  {scans : TableDescription → List DbScoreInfo} {now : UInt64}

theorem started_tables (hb : ∀ desc, desc ∈ boards ↔ db.scoreTable.get? desc ≠ none)
    (desc : TableDescription) :
    (started db boards scans now).scoreCache.tables.get? desc =
      (db.scoreTable.get? desc).map fun tableInfo => loadTable tableInfo (scans desc) now := by
  refine (loadTables_get? db scans now boards desc).trans ?_
  by_cases hd : desc ∈ boards
  · rw [if_pos hd]
  · rw [if_neg hd, not_not.mp (mt (hb desc).mpr hd)]
    rfl

theorem started_shown (hb : ∀ desc, desc ∈ boards ↔ db.scoreTable.get? desc ≠ none)
    {desc : TableDescription} (hd : db.scoreTable.get? desc ≠ none) :
    (started db boards scans now).shown desc =
      getScoresFromTable (db.boardInfo desc) (scans desc) := by
  obtain ⟨tableInfo, hi⟩ := Option.ne_none_iff_exists'.mp hd
  unfold shown tableFor
  rw [started_tables hb, hi]
  show getScoresFromTable tableInfo (scans desc) = _
  simp [boardInfo, hi]

theorem mem_rowsOf_owned {desc : TableDescription} (he : e ∈ db.rowsOf desc) :
    e.userId ∈ db.accounts.keys := by
  obtain ⟨p, hp, rfl⟩ := Multiset.mem_map.mp he
  have := HashMap.mem_entries.mp (Multiset.mem_of_mem_filter hp)
  exact db.owned p.1 p.2 this

theorem nodup_scan (h : Loadable db boards scans) (desc : TableDescription) :
    ((scans desc).map timestamp).Nodup ∧
      ((scans desc).map key).Nodup := by
  have hstamps := h.stamps desc
  have hkeys := db.nodup_keys desc
  rw [← h.scans_eq, Multiset.map_coe, Multiset.coe_nodup] at hstamps hkeys
  exact ⟨hstamps, hkeys⟩

theorem stamps_standings (h : Loadable db boards scans) (desc : TableDescription) :
    ((db.standings desc).map timestamp).Nodup := by
  unfold standings
  rw [Multiset.map_map]
  exact h.stamps desc

theorem wf_started (h : Loadable db boards scans) :
    (started db boards scans now).scoreCache.Wf := by
  intro desc t ht
  rw [started_tables h.boards_iff] at ht
  obtain ⟨tableInfo, hi, rfl⟩ := Option.map_eq_some_iff.mp ht
  have hd : desc ∈ boards := (h.boards_iff desc).mpr (by simp [hi])
  obtain ⟨hstamps, hkeys⟩ := nodup_scan h desc
  refine wf_loadTable now hstamps hkeys fun e he => ?_
  have hrow : e ∈ db.rowsOf desc := by
    rw [← h.scans_eq, Multiset.mem_coe]
    exact mem_of_mem_getScores he
  refine mem_loadUsers (List.mem_flatMap.mpr ⟨desc, hd, ?_⟩) (mem_rowsOf_owned hrow)
  simpa [hi] using ⟨e, he, rfl⟩

theorem mirrors_started (h : Loadable db boards scans) :
    Mirrors (started db boards scans now) := by
  refine ⟨⟨wf_started h, ?_, ?_, h.limit, stamps_standings h⟩, ?_⟩
  · intro desc t ht
    rw [started_tables h.boards_iff] at ht
    obtain ⟨tableInfo, hi, rfl⟩ := Option.map_eq_some_iff.mp ht
    simp [loadTable, started, boardInfo, hi]
  · intro desc ht
    rw [started_tables h.boards_iff, Option.map_eq_none_iff] at ht
    simp [started, boardInfo, ht]
  · intro desc
    refine ⟨_, listing_of_scan (h.scans_eq desc) (stamps_standings h desc), ?_⟩
    by_cases hd : db.scoreTable.get? desc = none
    · have hempty : scans desc = [] := by
        have := h.scans_eq desc
        rwa [h.boarded desc hd, Multiset.coe_eq_zero] at this
      unfold shown tableFor
      rw [started_tables h.boards_iff, hd, hempty]
      simp [ScoreTableCache.fromDb]
    · rw [started_shown h.boards_iff hd, getScoresFromTable, List.map_take]
      rfl

end Start

theorem mirrors_of_run {s₀ : ScoreServer} (h₀ : Mirrors s₀) {es : List (ServerOp × ServerOutcome)}
    (h : ((scoreServer s₀).restrict MirrorGuard).Run es s) : Mirrors s := by
  refine h.invariant h₀ ?_
  intro s op hs he
  obtain ⟨hsteady, hiff⟩ := hs.call he.1
  exact ⟨hsteady, hiff.mpr he.2⟩

end ScoreServer

open ScoreServer

/-- **The score cache mirrors the database as long as every listed score recorded again stays ahead
    of the rows beyond the limit.** From a server started on any database, along every run of
    commands with fresh timestamps that meet the condition: the cache lists what the query would
    load; the next command keeps that exactly when it meets the condition; and a restart shows the
    same ranking on every board. -/
theorem scoreCache_mirrors_database {db₀ : Database} {boards : List TableDescription}
    {scans : TableDescription → List DbScoreInfo} (now : UInt64) (h₀ : Loadable db₀ boards scans)
    {es : List (ServerOp × ServerOutcome)} {s : ScoreServer}
    (h : ((scoreServer (started db₀ boards scans now)).restrict MirrorGuard).Run es s) :
    s.Mirrored ∧
    (∀ op : ServerOp, op.Possible s → ((op.call s).2.Mirrored ↔ MirrorGuard s op)) ∧
    (∀ (boards' : List TableDescription) (scans' : TableDescription → List DbScoreInfo)
        (now' : UInt64),
      (∀ desc, desc ∈ boards' ↔ s.db.scoreTable.get? desc ≠ none) →
      (∀ desc, (scans' desc : Multiset DbScoreInfo) = s.db.rowsOf desc) →
      ∀ desc ∈ boards',
        ((started s.db boards' scans' now').shown desc).map DbScoreInfo.withoutData =
          (s.shown desc).map DbScoreInfo.withoutData) := by
  have hm : Mirrors s := mirrors_of_run (mirrors_started h₀) h
  have hmirror : s.Mirrored := (mirrored_iff hm.stamps).mpr hm.agrees
  refine ⟨hmirror, ?_, ?_⟩
  · intro op hp
    obtain ⟨hsteady, hiff⟩ := hm.call hp
    rw [mirrored_iff hsteady.stamps, hiff]
  · intro boards' scans' now' hb hs desc hd
    rw [started_shown hb ((hb desc).mp hd), hmirror desc (scans' desc) (hs desc)]

def rivalDb : Database where
  accounts := ((∅ : HashMap UserId ScoreUserCache).insert 1 ⟨"first", "First"⟩).insert 2
    ⟨"second", "Second"⟩
  scoreTable := (∅ : HashMap TableDescription DbBoardInfo).insert (.new titleComId 1)
    { DbBoardInfo.default with rankLimit := 1 }
  score := ∅
  owned := by simp

theorem rivalDb_loadable : Loadable rivalDb [.new titleComId 1] (fun _ => []) where
  boards_iff desc := by
    by_cases e : desc = .new titleComId 1
    · simp [rivalDb, e]
    · simp [rivalDb, e]
  scans_eq _ := rfl
  limit desc := by
    by_cases e : desc = .new titleComId 1
    · simp [limitOf, boardInfo, rivalDb, e]
    · simp [limitOf, boardInfo, rivalDb, e, DbBoardInfo.default]
  boarded _ _ := rfl
  stamps _ := Multiset.nodup_zero

def rivalServer : ScoreServer := started rivalDb [.new titleComId 1] (fun _ => []) 0

def recordBy (userId score : Int) (now : UInt64) : ServerOp :=
  .recordScore ⟨userId, "npid", "online", "avatar"⟩ titleComId ⟨1, 0, score, "", []⟩ false now 0

instance (s₀ s : ScoreServer) (userId score : Int) (now : UInt64) :
    Decidable ((scoreServer s₀).enabled s (recordBy userId score now)) :=
  inferInstanceAs (Decidable (∀ e ∈ s.db.rowsOf (.new titleComId 1), e.timestamp ≠ now))

instance (db : Database) (desc : TableDescription) (score : DbScoreInfo) :
    Decidable (StaysAhead db desc score) :=
  inferInstanceAs (Decidable (∀ old ∈ db.standings desc, old.key = score.key →
    place (RankedBefore db desc) (db.standings desc) old < limitOf db desc →
    ∀ rival ∈ db.standings desc,
      limitOf db desc ≤ place (RankedBefore db desc) (db.standings desc) rival →
      RankedBefore db desc score rival))

theorem scoreCache_mirrors_database_improved :
    ∃ es s, ((scoreServer rivalServer).restrict MirrorGuard).Run es s ∧
      s.shown (.new titleComId 1) = [scoreOf 1 20 3] ∧
      s.db.rowsOf (.new titleComId 1) = ↑[scoreOf 1 20 3, scoreOf 2 10 2] ∧ s.Mirrored := by
  have h1 : ((scoreServer rivalServer).restrict MirrorGuard).Run _ _ :=
    .step (recordBy 1 10 1) .start ⟨by decide, fun _ => by decide⟩
  have h2 := System.Run.step (recordBy 2 10 2) h1 ⟨by decide, fun _ => by decide⟩
  have h3 := System.Run.step (recordBy 1 20 3) h2 ⟨by decide, fun _ => by decide⟩
  exact ⟨_, _, h3, by decide, by decide,
    (scoreCache_mirrors_database 0 rivalDb_loadable h3).1⟩

/-- **A score recorded again hides the rival it falls behind.** Both users score 10, the first a
    second time and later: the database now ranks the second user first, the cache still lists the
    first. -/
theorem rerecording_hides_rival :
    Loadable rivalDb [.new titleComId 1] (fun _ => []) ∧
      ∃ es s, (scoreServer rivalServer).Run es s ∧
        s.shown (.new titleComId 1) = [scoreOf 1 10 3] ∧
        Database.getScoresFromTable (s.db.boardInfo (.new titleComId 1))
          [scoreOf 1 10 3, scoreOf 2 10 2] = [scoreOf 2 10 2] ∧ ¬ s.Mirrored := by
  have h1 : (scoreServer rivalServer).Run _ _ := .step (recordBy 1 10 1) .start (by decide)
  have h2 := System.Run.step (recordBy 2 10 2) h1 (by decide)
  have h3 := System.Run.step (recordBy 1 10 3) h2 (by decide)
  refine ⟨rivalDb_loadable, _, _, h3, by decide, by decide, fun hm => ?_⟩
  exact absurd (hm (.new titleComId 1) [scoreOf 1 10 3, scoreOf 2 10 2] (by decide)) (by decide)

end Rpcn
