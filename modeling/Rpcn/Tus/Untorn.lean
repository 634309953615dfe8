/-
  File:      Rpcn/Tus/Untorn.lean
  Subject:   WHAT THE REPLIES OF `TusGetData` CARRY.

  Between the select of the row and the read of the file anything may happen: the slot is written
  again, or deleted, or another request fails its condition and deletes its own file.
-/
import Rpcn.Tus.Backed
import Rpcn.Tus.Dispenser

namespace Rpcn.Tus

open Lib

variable {acc : Account.Database} {p : Server} {i : Nat}

/-! ## 1. Replies -/

variable {p' : Server} {op : TusOp}

theorem Moves.published (hm : Moves acc p op p') {job : SetJob} (h : Published p job) :
    Published p' job := by
  cases hm with
  | spawned waits | deleted keep hs =>
    obtain ⟨j, hj⟩ := h
    exact ⟨j, Pool.get_spawn_old hj⟩
  | set hi hs =>
    refine h.update hi ?_
    intro job' e
    cases e
    cases hs
  | get hi hs => exact h.update hi fun _ => by simp
  | restart =>
    obtain ⟨j, hj⟩ := h
    exact ⟨j, by rw [List.getElem?_map, hj]; rfl⟩

variable {job : GetJob} {r : Except ErrorType TusData}

theorem Moves.replied (hm : Moves acc p op p') (h : p'.tasks[i]? = some (.get job (.replied r))) :
    p.tasks[i]? = some (.get job (.replied r)) ∨
      ∃ place, p.tasks[i]? = some (.get job place) ∧
        job.step acc p.shared.store place = some (.replied r) := by
  cases hm with
  | spawned waits =>
    rcases Pool.get_spawn h with h | ⟨_, rfl⟩
    · exact Or.inl h
    · cases waits
  | deleted keep hs =>
    rcases Pool.get_spawn h with h | ⟨_, h⟩
    · exact Or.inl h
    · cases h
  | set hi hs =>
    rcases Pool.get_update h with ⟨_, h⟩ | ⟨_, h⟩
    · cases h
    · exact Or.inl h
  | get hi hs =>
    rcases Pool.get_update h with ⟨rfl, e⟩ | ⟨_, h⟩
    · cases e
      exact Or.inr ⟨_, hi, hs⟩
    · exact Or.inl h
  | restart =>
    obtain ⟨t, ht, e⟩ := getElem?_map_cut h
    left
    rw [ht]
    cases t with
    | get job' place => cases place <;> cases e; rfl
    | set job' place => cases place <;> cases e
    | finished r' => cases e

/-- **Not torn**: the reply is there, and what it says of a slot with data is of one `TusSetData` on
    this slot that was answered `NoError`. -/
def Untorn (acc : Account.Database) (p : Server) (job : GetJob) (r : Except ErrorType TusData) :
    Prop :=
  ∃ status data, r = .ok ⟨some status, data⟩ ∧ (status.hasData = true →
    ∃ set, Published p set ∧ set.key = job.key ∧ data = set.req.data ∧
      status.info = set.req.info ∧ status.lastChangedDate = set.newTimestamp ∧
      acc.getUsername set.clientId = .ok status.lastChangedAuthorId)

theorem Untorn.mono (h : Untorn acc p job r) (hp : ∀ set, Published p set → Published p' set) :
    Untorn acc p' job r := by
  obtain ⟨status, data, e, hd⟩ := h
  refine ⟨status, data, e, fun hs => ?_⟩
  obtain ⟨set, hset, rest⟩ := hd hs
  exact ⟨set, hp set hset, rest⟩

theorem Sound.replies (h : Sound acc (fun _ => true) p) {place : GetPlace}
    (hi : p.tasks[i]? = some (.get job place))
    (hs : job.step acc p.shared.store place = some (.replied r)) : Untorn acc p job r := by
  cases place with
  | select =>
    rw [GetJob.step] at hs
    split at hs
    · cases hs
      exact ⟨_, _, rfl, fun hd => by cases hd⟩
    · cases hs
  | read row =>
    obtain ⟨set, hset, hb⟩ := h.backed (Or.inr ⟨i, _, hi, rfl⟩) rfl
    obtain ⟨user, huser⟩ := HashMap.mem_keys.mp hb.known
    have hname : acc.getUsername set.clientId = .ok user.username := by
      rw [Account.Database.getUsername, huser]
    have hauthor : row.authorId = set.clientId := congrArg DataRow.authorId hb.row_eq
    rw [GetJob.step, Store.getTusDataFile, hb.file, hauthor, hname] at hs
    cases hs
    exact ⟨_, _, rfl, fun _ => ⟨set, hset, hb.key_eq, rfl, congrArg DataRow.dataInfo hb.row_eq,
      congrArg DataRow.timestamp hb.row_eq, hname⟩⟩
  | replied r' => cases hs
  | lost => cases hs

/-! ## 2. Every run -/

/-- **Files are created complete, under fresh ids**: the dispenser, a counter, has not gone round.
    (A creation in the middle of which the server is stopped does not return.) -/
def FreshFiles (p : Server) : TusOp → Prop
  | .next i c => ∀ job, p.tasks[i]? = some (.set job .create) →
      p.shared.store.dispenser ≠ 0 ∧
      match c with
      | .complete | .interrupted _ => True
      | .createFailed | .writeFailed _ => False
  | _ => True

theorem FreshFiles.unwrapped (h : FreshFiles p op) : Unwrapped p op := by
  cases op with
  | next i c => exact fun job hi => (h job hi).1
  | _ => trivial

theorem FreshFiles.guarded (h : FreshFiles p op) (hb : Bounded p.shared.store) :
    Guarded (fun _ => true) p op := by
  cases op with
  | next i c =>
    intro job hi
    obtain ⟨hd, hc⟩ := h job hi
    refine ⟨hb.fresh hd, ?_⟩
    cases c with
    | complete => rfl
    | interrupted _ => trivial
    | createFailed | writeFailed _ => cases hc
  | _ => trivial

/-- **TUS data is never torn.** In every run in which files are created complete and under fresh
    ids, at every time: the file of every row is there; and every `TusGetData` that was answered got
    a reply, none for want of a file, and what the reply says of a slot with data (data, info,
    author, timestamp) is of one and the same `TusSetData` answered `NoError`. -/
theorem tus_data_untorn {es : List (TusOp × Unit)}
    (h : ((tusServer acc).restrict FreshFiles).Run es p) :
    (∀ key row, p.shared.store.tusData.get? key = some row →
      row.dataId ∈ p.shared.store.files.keys) ∧
    ∀ (i : Nat) job r, p.tasks[i]? = some (.get job (.replied r)) → Untorn acc p job r := by
  have hI : Sound acc (fun _ => true) p ∧ Bounded p.shared.store ∧
      ∀ (i : Nat) job r, p.tasks[i]? = some (.get job (.replied r)) → Untorn acc p job r := by
    refine h.carried_restrict (I := fun _ p => Sound acc (fun _ => true) p ∧
      Bounded p.shared.store ∧
      ∀ (i : Nat) job r, p.tasks[i]? = some (.get job (.replied r)) → Untorn acc p job r)
      ⟨.start, bounded_start, fun i job r hi => by simp at hi⟩ ?_
    intro es p op e p' _ hg ⟨hsound, hb, hreplies⟩ hs
    have hm := Server.serve_moves hs
    refine ⟨hsound.serve (hg.guarded hb) hm, hb.serve hg.unwrapped hm, fun i job r hi => ?_⟩
    have hr : Untorn acc p job r := by
      rcases hm.replied hi with hi | ⟨place, hi, hstep⟩
      · exact hreplies i job r hi
      · exact hsound.replies hi hstep
    exact hr.mono fun _ => hm.published
  exact ⟨fun key row hk => hI.1.file_of_seen (Or.inl hk) rfl, hI.2.2⟩

def freshFiles (p : Server) : TusOp → Bool
  | .next i c =>
    match p.tasks[i]? with
    | some (.set _ .create) =>
      p.shared.store.dispenser ≠ 0 && c = .complete
    | _ => true
  | _ => true

theorem freshFiles_spec (p : Server) (op : TusOp) (h : freshFiles p op = true) :
    FreshFiles p op := by
  cases op with
  | next i c =>
    intro job hi
    simp only [freshFiles, hi, Bool.and_eq_true, decide_eq_true_eq] at h
    obtain ⟨hd, rfl⟩ := h
    exact ⟨hd, trivial⟩
  | _ => trivial

def setByte (slotId : Int32) (byte : UInt8) (now : UInt64) : TusOp :=
  .setData 1 (Vector.replicate 12 0) ⟨some ⟨true, "v"⟩, slotId, [byte], [], [], ""⟩ now

def getByte (slotId : Int32) : TusOp :=
  .getData (Vector.replicate 12 0) ⟨some ⟨true, "v"⟩, slotId⟩

def threeSteps (i : Nat) (c : Store.Creation) : List TusOp := List.replicate 3 (.next i c)

theorem tus_data_untorn_overwritten :
    ∃ es p job data, ((tusServer oneAccount).restrict FreshFiles).Run es p ∧
      p.tasks[1]? = some (.get job (.replied (.ok data))) ∧ data.data = [7] ∧
      Untorn oneAccount p job (.ok data) := by
  have hrun : (System.execute
      (fun p op => if freshFiles p op then Server.serve oneAccount p op else none)
      (tusServer oneAccount).init
      (setByte 0 7 1 :: threeSteps 0 .complete ++ [getByte 0, .next 1 .complete] ++
        setByte 0 8 2 :: threeSteps 2 .complete ++ [.next 1 .complete])).map
          (fun r => r.2.tasks[1]?) =
      some (some (.get ⟨"v", ⟨.vuser "v", Vector.replicate 12 0, 0⟩⟩
        (.replied (.ok ⟨some ⟨"v", true, 1, "ada", []⟩, [7]⟩)))) := by
    decide +kernel
  obtain ⟨r, hr, ht⟩ := Option.map_eq_some_iff.mp hrun
  have h := System.Run.start.execute_restrict freshFiles_spec hr
  exact ⟨_, r.2, _, _, h, ht, rfl, (tus_data_untorn h).2 1 _ _ ht⟩

end Rpcn.Tus
