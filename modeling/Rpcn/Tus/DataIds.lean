/-
  File:      Rpcn/Tus/DataIds.lean
  Subject:   ARE THE IDS OF TUS DATA UNIQUE? Failed creations, and restarts.

  Both tables take their ids from one dispenser, and what it gives is new (Dispenser.lean). But where
  a file cannot be created or written, `create_tus_data_file` returns 0, and `tus_set_data` stores a
  row with the id 0. With a second such row `tus_get_all_data_ids` fails, and with it the next start
  of the server (`failed_files_share_id`).
-/
import Rpcn.Tus.Untorn

namespace Rpcn.Tus

open Lib

variable {acc : Account.Database} {p : Server} {i : Nat}

/-! ## 1. Every run -/

/-- **The condition on a step**: at the creation of a file the dispenser has not gone round; and
    where the creation fails, no row has the id 0 and no request is about to store one. -/
def IdGuard (p : Server) : TusOp → Prop
  | .next i c => ∀ job, p.tasks[i]? = some (.set job .create) →
      p.shared.store.dispenser ≠ 0 ∧
      match c with
      | .complete | .interrupted _ => True
      | .createFailed | .writeFailed _ =>
        (∀ key row, p.shared.store.tusData.get? key = some row → row.dataId ≠ 0) ∧
        ∀ (j : Nat) (job' : SetJob), p.tasks[j]? ≠ some (.set job' (.store 0))
  | _ => True

variable {op : TusOp}

theorem IdGuard.unwrapped (h : IdGuard p op) : Unwrapped p op := by
  cases op with
  | next i c => exact fun job hi => (h job hi).1
  | _ => trivial

theorem IdGuard.guarded (h : IdGuard p op) (hb : Bounded p.shared.store) :
    Guarded (fun id => id != 0) p op := by
  cases op with
  | next i c =>
    intro job hi
    obtain ⟨hd, hc⟩ := h job hi
    refine ⟨hb.fresh hd, ?_⟩
    cases c with
    | complete => exact bne_iff_ne.mpr hd
    | interrupted _ => trivial
    | createFailed | writeFailed _ => exact ⟨rfl, hc⟩
  | _ => trivial

theorem Store.serverNew_of_unique {s : Store} (h : s.tusData.UniqueBy (·.dataId)) :
    ∃ s', s.serverNew = .ok s' := by
  have hids := tusGetAllDataIds_of_unique (s := s.initializeTusDataHandler) h
  rw [serverNew, cleanTusData, hids]
  exact ⟨_, rfl⟩

theorem World.restart_running {w : World} (h : w.store.tusData.UniqueBy (·.dataId)) :
    w.restart.running = true := by
  obtain ⟨s, hs⟩ := Store.serverNew_of_unique h
  rw [World.restart, hs]

theorem running_serve {p' : Server} (h : p.shared.running = true)
    (hu : p.shared.store.tusData.UniqueBy (·.dataId)) (hm : Moves acc p op p') :
    p'.shared.running = true := by
  cases hm with
  | spawned waits | deleted keep hs | set hi hs | get hi hs => exact h
  | restart => exact World.restart_running hu

/-- **TUS ids stay unique** in every run whose creations of files meet the condition: all ids of
    both tables are distinct, they can be listed, and no start of the server is refused, neither
    the next one nor one before. -/
theorem tus_data_ids_unique {es : List (TusOp × Unit)}
    (h : ((tusServer acc).restrict IdGuard).Run es p) :
    p.shared.store.tusData.UniqueBy (·.dataId) ∧
      (∃ ids, p.shared.store.tusGetAllDataIds = .ok ids) ∧
      (∃ s, p.shared.store.serverNew = .ok s) ∧ p.shared.running = true := by
  have hI : Sound acc (fun id => id != 0) p ∧ Bounded p.shared.store ∧
      p.shared.running = true := by
    refine h.carried_restrict (I := fun _ p => Sound acc (fun id => id != 0) p ∧
      Bounded p.shared.store ∧ p.shared.running = true)
      ⟨.start, bounded_start, rfl⟩ ?_
    intro es p op e p' _ hg ⟨hsound, hb, hrun⟩ hs
    have hm := Server.serve_moves hs
    exact ⟨hsound.serve (hg.guarded hb) hm, hb.serve hg.unwrapped hm,
      running_serve hrun hsound.unique hm⟩
  have hu := hI.1.unique
  exact ⟨hu, ⟨_, Store.tusGetAllDataIds_of_unique hu⟩, Store.serverNew_of_unique hu, hI.2.2⟩

def idGuard (p : Server) : TusOp → Bool
  | .next i c =>
    match p.tasks[i]? with
    | some (.set _ .create) => p.shared.store.dispenser ≠ 0 &&
        match c with
        | .complete | .interrupted _ => true
        | .createFailed | .writeFailed _ =>
          !p.shared.store.tusData.any (fun row => row.dataId == 0) &&
            p.tasks.all fun t =>
              match t with
              | .set _ (.store id) => id != 0
              | _ => true
    | _ => true
  | _ => true

theorem idGuard_spec (p : Server) (op : TusOp) (h : idGuard p op = true) : IdGuard p op := by
  cases op with
  | next i c =>
    intro job hi
    simp only [idGuard, hi, Bool.and_eq_true, decide_eq_true_eq] at h
    refine ⟨h.1, ?_⟩
    cases c with
    | complete | interrupted _ => trivial
    | createFailed | writeFailed _ =>
      have hc := h.2
      simp only [Bool.and_eq_true, Bool.not_eq_true', List.all_eq_true] at hc
      refine ⟨fun key row hk => ?_, fun j job' hj => ?_⟩
      · exact beq_eq_false_iff_ne.mp (HashMap.any_eq_false hc.1 hk)
      · exact absurd rfl (bne_iff_ne.mp (hc.2 _ (List.mem_of_getElem? hj)))
  | _ => trivial

theorem tus_data_ids_unique_failed :
    ∃ es p, ((tusServer oneAccount).restrict IdGuard).Run es p ∧
      p.shared.store.tusData.values.map (·.dataId) = {0, 2, 3} ∧
      p.shared.store.tusData.UniqueBy (·.dataId) ∧ p.shared.running = true := by
  have hrun : (System.execute
      (fun p op => if idGuard p op then Server.serve oneAccount p op else none)
      (tusServer oneAccount).init
      (setByte 0 7 1 :: threeSteps 0 .createFailed ++ setByte 1 8 2 :: threeSteps 1 .complete ++
        .restart :: setByte 2 9 3 :: threeSteps 2 .complete)).map
          (fun r => r.2.shared.store.tusData.values.map (·.dataId)) =
      some {0, 2, 3} := by
    decide +kernel
  obtain ⟨r, hr, hids⟩ := Option.map_eq_some_iff.mp hrun
  have h := System.Run.start.execute_restrict idGuard_spec hr
  exact ⟨_, r.2, h, hids, (tus_data_ids_unique h).1, (tus_data_ids_unique h).2.2.2⟩

/-- **Two failed creations share the id 0**, and the server does not start again. -/
theorem failed_files_share_id :
    ∃ es p, (tusServer oneAccount).Run es p ∧
      p.shared.store.tusData.values.map (·.dataId) = {0, 0} ∧
      ¬ p.shared.store.tusData.UniqueBy (·.dataId) ∧ p.shared.running = false := by
  have hrun : (System.execute (Server.serve oneAccount) (tusServer oneAccount).init
      (setByte 0 7 1 :: threeSteps 0 .createFailed ++ setByte 1 8 2 :: threeSteps 1 .createFailed ++
        [.restart])).map
          (fun r => (r.2.shared.store.tusData.values.map (·.dataId), r.2.shared.running)) =
      some ({0, 0}, false) := by
    decide +kernel
  obtain ⟨r, hr, hview⟩ := Option.map_eq_some_iff.mp hrun
  have hids := congrArg Prod.fst hview
  refine ⟨_, r.2, System.Run.start.execute hr, hids, fun hu => ?_, congrArg Prod.snd hview⟩
  have hnodup := hu.nodup_map_values
  rw [show r.2.shared.store.tusData.values.map (·.dataId) = {0, 0} from hids] at hnodup
  revert hnodup
  decide

end Rpcn.Tus
