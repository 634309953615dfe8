/-
  File:      Rpcn/Tus/Backed.lean
  Subject:   ROWS AND FILES OF TUS DATA. What is read of a slot was written by one request.

  Row and file are two stores without a transaction over both. They agree because an id is used by
  one request only: until the upsert the request is the only one that knows its id (it *holds* it),
  from then on the file is never written or deleted.
-/
import Rpcn.Tus.Server

namespace Rpcn.Tus

open Lib Pool Task HashMap

variable {acc : Account.Database} {real : UInt64 → Bool} {p : Server} {i : Nat}

/-! ## 1. Who uses an id -/

def Task.holding (real : UInt64 → Bool) : Task → Option (UInt64 × List UInt8)
  | .set job (.store id) => some (id, job.req.data)
  | .set job (.delete id) => if real id then some (id, job.req.data) else none
  | _ => none

def Task.reading : Task → Option (SlotKey × DataRow)
  | .get job (.read row) => some (job.key, row)
  | _ => none

/-- A `TusSetData` was answered `NoError`. -/
def Published (p : Server) (job : SetJob) : Prop :=
  ∃ i : Nat, p.tasks[i]? = some (.set job (.replied (.ok .noError)))

def Seen (p : Server) (key : SlotKey) (row : DataRow) : Prop :=
  p.shared.store.tusData.get? key = some row ∨
    ∃ (i : Nat) (t : Task), p.tasks[i]? = some t ∧ t.reading = some (key, row)

structure BackedBy (acc : Account.Database) (s : Store) (key : SlotKey) (row : DataRow)
    (job : SetJob) : Prop where
  key_eq : job.key = key
  known : job.clientId ∈ acc.account.keys
  row_eq : row = job.row row.dataId
  file : s.files.get? row.dataId = some job.req.data

def Backed (acc : Account.Database) (p : Server) (key : SlotKey) (row : DataRow) : Prop :=
  ∃ job, Published p job ∧ BackedBy acc p.shared.store key row job

structure Sound (acc : Account.Database) (real : UInt64 → Bool) (p : Server) : Prop where
  unique : p.shared.store.tusData.UniqueBy (·.dataId)
  apart : p.Apart fun t => (t.holding real).map (·.1)
  unpublished : ∀ {i : Nat} {t : Task} {id : UInt64} {d : List UInt8}, p.tasks[i]? = some t →
    t.holding real = some (id, d) → ∀ key row, p.shared.store.tusData.get? key = some row →
    row.dataId ≠ id
  unseen : ∀ {i : Nat} {t : Task} {id : UInt64} {d : List UInt8}, p.tasks[i]? = some t →
    t.holding real = some (id, d) → real id = true → ∀ key row, Seen p key row → row.dataId ≠ id
  written : ∀ {i : Nat} {t : Task} {id : UInt64} {d : List UInt8}, p.tasks[i]? = some t →
    t.holding real = some (id, d) → real id = true → p.shared.store.files.get? id = some d
  backed : ∀ {key : SlotKey} {row : DataRow}, Seen p key row → real row.dataId = true →
    Backed acc p key row

theorem Sound.start : Sound acc real ⟨⟨.start, true⟩, []⟩ where
  unique := .empty _
  apart := fun _ _ _ _ _ h => by simp at h
  unpublished := fun h => by simp at h
  unseen := fun h => by simp at h
  written := fun h => by simp at h
  backed := by
    intro key row h
    rcases h with h | ⟨_, _, h, _⟩
    · cases h
    · simp at h

variable {j : Nat} {id : UInt64} {d : List UInt8}

variable {t u : Task}

theorem Sound.holder_eq (h : Sound acc real p) {d' : List UInt8} (hi : p.tasks[i]? = some t)
    (ht : t.holding real = some (id, d)) (hj : p.tasks[j]? = some u)
    (hu : u.holding real = some (id, d')) : i = j :=
  h.apart i j t u id hi hj (congrArg (Option.map Prod.fst) ht) (congrArg (Option.map Prod.fst) hu)

variable {key : SlotKey} {row : DataRow}

theorem Sound.file_of_seen (h : Sound acc real p) (hs : Seen p key row)
    (hr : real row.dataId = true) : row.dataId ∈ p.shared.store.files.keys := by
  obtain ⟨job, _, hb⟩ := h.backed hs hr
  exact mem_keys.mpr ⟨_, hb.file⟩

/-! ## 2. A step of one request -/

structure Free (real : UInt64 → Bool) (p : Server) (i : Nat) (s : Store) (id : UInt64)
    (d : List UInt8) : Prop where
  rows : ∀ key row, p.shared.store.tusData.get? key = some row → row.dataId ≠ id
  others : ∀ (j : Nat) (u : Task), j ≠ i → p.tasks[j]? = some u →
    (u.holding real).map (·.1) ≠ some id
  seen : real id = true → ∀ key row, Seen p key row → row.dataId ≠ id
  file : real id = true → s.files.get? id = some d

variable {w : World} {job : SetJob} {p' : Server}

section Update

variable {t t' : Task} {s : Store}

theorem Published.update (hi : p.tasks[i]? = some t)
    (ht : ∀ job, t ≠ .set job (.replied (.ok .noError))) (h : Published p job) :
    Published (p.update i w t') job := by
  obtain ⟨j, hj⟩ := h
  have hne : j ≠ i := by
    intro e
    rw [e, hi] at hj
    exact ht job (Option.some.inj hj)
  exact ⟨j, by rw [get_update_ne hne, hj]⟩

theorem Backed.mono (h : Backed acc p key row) (hp : ∀ job, Published p job → Published p' job)
    (hf : ∀ d, p.shared.store.files.get? row.dataId = some d →
      p'.shared.store.files.get? row.dataId = some d) : Backed acc p' key row := by
  obtain ⟨job, hjob, hb⟩ := h
  exact ⟨job, hp job hjob, ⟨hb.key_eq, hb.known, hb.row_eq, hf _ hb.file⟩⟩

theorem Seen.of_update (hr : ∀ key row, t'.reading = some (key, row) →
      p.shared.store.tusData.get? key = some row) (h : Seen (p.update i w t') key row) :
    w.store.tusData.get? key = some row ∨ Seen p key row := by
  rcases h with h | ⟨j, u, hj, hu⟩
  · exact Or.inl h
  · right
    rcases get_update hj with ⟨_, rfl⟩ | ⟨_, hj⟩
    · exact Or.inl (hr key row hu)
    · exact Or.inr ⟨j, u, hj, hu⟩

theorem Sound.move (h : Sound acc real p) (hi : p.tasks[i]? = some t)
    (ht : ∀ job, t ≠ .set job (.replied (.ok .noError)))
    (hrows : s.tusData = p.shared.store.tusData)
    (hfiles : ∀ id d, real id = true →
      (∀ d', t.holding real = some (id, d') → t'.holding real = some (id, d')) →
      p.shared.store.files.get? id = some d → s.files.get? id = some d)
    (hhold : ∀ id d, t'.holding real = some (id, d) →
      t.holding real = some (id, d) ∨ Free real p i s id d)
    (hread : ∀ key row, t'.reading = some (key, row) →
      p.shared.store.tusData.get? key = some row) :
    Sound acc real (p.update i { p.shared with store := s } t') := by
  have hseen : ∀ {key row}, Seen (p.update i { p.shared with store := s } t') key row →
      Seen p key row := by
    intro key row hs
    rcases hs.of_update hread with hs | hs
    · exact Or.inl (hrows ▸ hs)
    · exact hs
  constructor
  case unique =>
    rw [shared_update, hrows]
    exact h.unique
  case apart =>
    refine h.apart.update hi fun id hid => ?_
    obtain ⟨⟨_, d⟩, hd, rfl⟩ := Option.map_eq_some_iff.mp hid
    rcases hhold _ d hd with hold | hfree
    · left
      rw [hold]
      rfl
    · exact Or.inr hfree.others
  case unpublished =>
    intro j u id d hj hu key row hk
    rw [shared_update, hrows] at hk
    rcases get_update hj with ⟨_, rfl⟩ | ⟨_, hj⟩
    · rcases hhold id d hu with hold | hfree
      · exact h.unpublished hi hold key row hk
      · exact hfree.rows key row hk
    · exact h.unpublished hj hu key row hk
  case unseen =>
    intro j u id d hj hu hid key row hs
    rcases get_update hj with ⟨_, rfl⟩ | ⟨_, hj⟩
    · rcases hhold id d hu with hold | hfree
      · exact h.unseen hi hold hid key row (hseen hs)
      · exact hfree.seen hid key row (hseen hs)
    · exact h.unseen hj hu hid key row (hseen hs)
  case written =>
    intro j u id d hj hu hid
    rcases get_update hj with ⟨_, rfl⟩ | ⟨hne, hj⟩
    · rcases hhold id d hu with hold | hfree
      · refine hfiles id d hid (fun d' hd' => ?_) (h.written hi hold hid)
        rw [hd'] at hold
        rw [hu, hold]
      · exact hfree.file hid
    · refine hfiles id d hid (fun d' hd' => ?_) (h.written hj hu hid)
      exact absurd (h.holder_eq hj hu hi hd') hne
  case backed =>
    intro key row hs hid
    refine (h.backed (hseen hs) hid).mono (fun _ => Published.update hi ht) fun d hd => ?_
    refine hfiles _ d hid (fun d' hd' => ?_) hd
    exact absurd rfl (h.unseen hi hd' hid key row (hseen hs))

theorem Sound.store (h : Sound acc real p) (hi : p.tasks[i]? = some (.set job (.store id)))
    (known : job.clientId ∈ acc.account.keys) :
    Sound acc real (p.update i
      { p.shared with store := { p.shared.store with
          tusData := p.shared.store.tusData.insert job.key (job.row id) } }
      (.set job (.replied (.ok .noError)))) := by
  have hhold : (set job (.store id)).holding real = some (id, job.req.data) := rfl
  have hpub : ∀ {w : World} (job' : SetJob), Published p job' →
      Published (p.update i w (.set job (.replied (.ok .noError)))) job' :=
    fun _ hp => hp.update hi fun _ => by simp
  have hseen : ∀ {w : World} {key row},
      w.store.tusData = p.shared.store.tusData.insert job.key (job.row id) →
      Seen (p.update i w (.set job (.replied (.ok .noError)))) key row →
      key = job.key ∧ row = job.row id ∨ Seen p key row := by
    intro w key row hw hs
    rcases hs.of_update (fun _ _ hr => by simp [reading] at hr) with hs | hs
    · rw [hw, get?_insert] at hs
      split at hs
      · exact Or.inl ⟨by assumption, (Option.some.inj hs).symm⟩
      · exact Or.inr (Or.inl hs)
    · exact Or.inr hs
  -- whoever else holds an id does not hold the one of the new row
  have hother : ∀ {j : Nat} {u : Task} {id' : UInt64} {d : List UInt8}, j ≠ i →
      p.tasks[j]? = some u → u.holding real = some (id', d) → (job.row id).dataId ≠ id' := by
    intro j u id' d hne hj hu e
    have e : id = id' := e
    exact hne (h.holder_eq hj (e ▸ hu) hi hhold)
  constructor
  case unique => exact h.unique.insert_new _ (h.unpublished hi hhold)
  case apart => exact h.apart.update hi fun id hid => by simp [holding] at hid
  case unpublished =>
    intro j u id' d hj hu key row hk
    rcases get_update hj with ⟨_, rfl⟩ | ⟨hne, hj⟩
    · cases hu
    · rw [shared_update, get?_insert] at hk
      split at hk
      · cases hk
        exact hother hne hj hu
      · exact h.unpublished hj hu key row hk
  case unseen =>
    intro j u id' d hj hu hid key row hs
    rcases get_update hj with ⟨_, rfl⟩ | ⟨hne, hj⟩
    · cases hu
    · rcases hseen rfl hs with ⟨_, rfl⟩ | hs
      · exact hother hne hj hu
      · exact h.unseen hj hu hid key row hs
  case written =>
    intro j u id' d hj hu hid
    rcases get_update hj with ⟨_, rfl⟩ | ⟨_, hj⟩
    · cases hu
    · exact h.written hj hu hid
  case backed =>
    intro key row hs hid
    rcases hseen rfl hs with ⟨rfl, rfl⟩ | hs
    · exact ⟨job, ⟨i, get_update_self hi⟩, rfl, known, rfl, h.written hi hhold hid⟩
    · exact (h.backed hs hid).mono hpub fun _ hd => hd

end Update

/-! ## 3. Requests that come in, and restarts -/

theorem Task.Waits.holding (h : t.Waits) : t.holding real = none := by
  cases t with
  | set job place => cases place <;> first | rfl | cases h
  | get job place => rfl
  | finished r => rfl

theorem Task.Waits.reading (h : t.Waits) : t.reading = none := by
  cases t with
  | set job place => rfl
  | get job place => cases place <;> first | rfl | cases h
  | finished r => rfl

variable {s : Store}

theorem Sound.spawn (h : Sound acc real p) (ht : t.Waits)
    (hfiles : s.files = p.shared.store.files) (hrows : ∀ key row, s.tusData.get? key = some row →
      p.shared.store.tusData.get? key = some row) :
    Sound acc real (Pool.spawn ⟨{ p.shared with store := s }, p.tasks⟩ t) := by
  have hold : ∀ {j : Nat} {u : Task} {x : UInt64 × List UInt8}, u.holding real = some x →
      (Pool.spawn ⟨{ p.shared with store := s }, p.tasks⟩ t).tasks[j]? = some u →
      p.tasks[j]? = some u := by
    intro j u x hu hj
    rcases Pool.get_spawn hj with hj | ⟨_, rfl⟩
    · exact hj
    · rw [ht.holding] at hu
      cases hu
  have hseen : ∀ {key row}, Seen (Pool.spawn ⟨{ p.shared with store := s }, p.tasks⟩ t) key row →
      Seen p key row := by
    rintro key row (hs | ⟨j, u, hj, hu⟩)
    · exact Or.inl (hrows key row hs)
    · rcases Pool.get_spawn hj with hj | ⟨_, rfl⟩
      · exact Or.inr ⟨j, u, hj, hu⟩
      · rw [ht.reading] at hu
        cases hu
  constructor
  case unique => exact h.unique.mono fun key row hk => ⟨row, hrows key row hk, rfl⟩
  case apart => exact Pool.Apart.spawn h.apart (by rw [ht.holding]; rfl)
  case unpublished =>
    intro j u id d hj hu key row hk
    exact h.unpublished (hold hu hj) hu key row (hrows key row hk)
  case unseen =>
    intro j u id d hj hu hid key row hs
    exact h.unseen (hold hu hj) hu hid key row (hseen hs)
  case written =>
    intro j u id d hj hu hid
    rw [Pool.shared_spawn, hfiles]
    exact h.written (hold hu hj) hu hid
  case backed =>
    intro key row hs hid
    refine (h.backed (hseen hs) hid).mono ?_ ?_
    · rintro job ⟨j, hj⟩
      exact ⟨j, Pool.get_spawn_old hj⟩
    · intro d hd
      rw [Pool.shared_spawn, hfiles]
      exact hd

theorem Task.cut_holding (t : Task) : t.cut.holding real = none := by
  cases t with
  | set job place => cases place <;> rfl
  | get job place => cases place <;> rfl
  | finished r => rfl

theorem Task.cut_reading (t : Task) : t.cut.reading = none := by
  cases t with
  | set job place => cases place <;> rfl
  | get job place => cases place <;> rfl
  | finished r => rfl

theorem Store.tusGetAllDataIds_of_unique (h : s.tusData.UniqueBy (·.dataId)) :
    s.tusGetAllDataIds = .ok (s.tusData.values.map (·.dataId)).toFinset :=
  if_pos h.nodup_map_values

theorem Store.mem_of_tusGetAllDataIds {ids : Finset UInt64} (h : s.tusGetAllDataIds = .ok ids)
    (hk : s.tusData.get? key = some row) : row.dataId ∈ ids := by
  unfold tusGetAllDataIds at h
  dsimp only at h
  split at h
  · cases h
    rw [Multiset.mem_toFinset]
    exact Multiset.mem_map_of_mem _ (mem_values.mpr ⟨key, hk⟩)
  · cases h

theorem World.restart_keeps (w : World) :
    w.restart.store.tusData = w.store.tusData ∧
      ∀ key row, w.store.tusData.get? key = some row →
        w.restart.store.files.get? row.dataId = w.store.files.get? row.dataId := by
  unfold World.restart Store.serverNew Store.cleanTusData
  split
  · rename_i s hs
    split at hs
    · cases hs
    · rename_i ids hids
      cases hs
      refine ⟨rfl, fun key row hk => ?_⟩
      have hmem : row.dataId ∈ ids := Store.mem_of_tusGetAllDataIds hids hk
      rw [get?_retain]
      cases hf : w.store.files.get? row.dataId with
      | none => simp [Store.initializeTusDataHandler, hf]
      | some d => simp [Store.initializeTusDataHandler, hf, hmem]
  · exact ⟨rfl, fun _ _ _ => rfl⟩

theorem getElem?_map_cut {l : List Task} (h : (l.map Task.cut)[j]? = some u) :
    ∃ t, l[j]? = some t ∧ u = t.cut := by
  rw [List.getElem?_map, Option.map_eq_some_iff] at h
  obtain ⟨t, ht, e⟩ := h
  exact ⟨t, ht, e.symm⟩

theorem Sound.restart (h : Sound acc real p) :
    Sound acc real ⟨p.shared.restart, p.tasks.map Task.cut⟩ := by
  obtain ⟨hrows, hfiles⟩ := p.shared.restart_keeps
  have hold : ∀ {j : Nat} {u : Task} {x : UInt64 × List UInt8},
      (p.tasks.map Task.cut)[j]? = some u → u.holding real ≠ some x := by
    intro j u x hj hu
    obtain ⟨t, _, rfl⟩ := getElem?_map_cut hj
    rw [cut_holding] at hu
    cases hu
  have hseen : ∀ {key row}, Seen ⟨p.shared.restart, p.tasks.map Task.cut⟩ key row →
      p.shared.store.tusData.get? key = some row := by
    rintro key row (hs | ⟨j, u, hj, hu⟩)
    · exact hrows ▸ hs
    · obtain ⟨t, _, rfl⟩ := getElem?_map_cut hj
      rw [cut_reading] at hu
      cases hu
  constructor
  case unique => exact hrows ▸ h.unique
  case apart =>
    intro a b x y id ha _ hx _
    obtain ⟨d, hd, _⟩ := Option.map_eq_some_iff.mp hx
    exact absurd hd (hold ha)
  case unpublished => exact fun hj hu => absurd hu (hold hj)
  case unseen => exact fun hj hu => absurd hu (hold hj)
  case written => exact fun hj hu => absurd hu (hold hj)
  case backed =>
    intro key row hs hid
    refine (h.backed (Or.inl (hseen hs)) hid).mono ?_ fun d hd => ?_
    · rintro job ⟨j, hj⟩
      exact ⟨j, by rw [List.getElem?_map, hj]; rfl⟩
    · exact (hfiles key row (hseen hs)).trans hd

/-! ## 4. Every step -/

/-- **The condition on a step**: a file is created under an id that no file has. A complete one gets
    an id that is real; where the creation fails, the 0 that is returned instead is not, and is
    neither in a row nor about to be stored by another request. -/
def Guarded (real : UInt64 → Bool) (p : Server) : TusOp → Prop
  | .next i c => ∀ job, p.tasks[i]? = some (.set job .create) →
      p.shared.store.dispenser ∉ p.shared.store.files.keys ∧
      match c with
      | .complete => real p.shared.store.dispenser = true
      | .interrupted _ => True
      | .createFailed | .writeFailed _ => real 0 = false ∧
          (∀ key row, p.shared.store.tusData.get? key = some row → row.dataId ≠ 0) ∧
          ∀ (j : Nat) (job' : SetJob), p.tasks[j]? ≠ some (.set job' (.store 0))
  | _ => True

theorem Task.holding_data (h : t.holding real = some (id, d)) (hid : real id = false) :
    ∃ job, t = .set job (.store id) := by
  cases t with
  | set job place =>
    cases place with
    | store id' =>
      cases h
      exact ⟨job, rfl⟩
    | delete id' =>
      rw [holding] at h
      split at h
      · cases h
        rename_i hr
        rw [hid] at hr
        cases hr
      · cases h
    | _ => cases h
  | get job place => cases h
  | finished r => cases h

variable {data : List UInt8}

theorem Store.files_afterCreation {c : Creation} (hd : s.dispenser ∉ s.files.keys)
    (h : s.files.get? id = some d) : (s.afterCreation data c).files.get? id = some d := by
  have hne : id ≠ s.dispenser := by
    intro e
    exact hd (mem_keys.mpr ⟨d, e ▸ h⟩)
  cases c with
  | createFailed => exact h
  | complete | writeFailed _ | interrupted _ =>
    rw [afterCreation, get?_insert, if_neg hne]
    exact h

theorem Store.tusData_afterCreation (s : Store) (data : List UInt8) (c : Creation) :
    (s.afterCreation data c).tusData = s.tusData := by
  cases c <;> rfl

theorem Sound.free_dispenser (h : Sound acc real p)
    (hd : p.shared.store.dispenser ∉ p.shared.store.files.keys)
    (hr : real p.shared.store.dispenser = true) :
    Free real p i (p.shared.store.afterCreation data .complete) p.shared.store.dispenser data := by
  have hseen : ∀ key row, Seen p key row → row.dataId ≠ p.shared.store.dispenser := by
    intro key row hs e
    exact hd (e ▸ h.file_of_seen hs (e ▸ hr))
  refine ⟨fun key row hk => hseen key row (Or.inl hk), ?_, fun _ => hseen, fun _ => ?_⟩
  · intro j u _ hj hu
    obtain ⟨⟨_, d⟩, hu, rfl⟩ := Option.map_eq_some_iff.mp hu
    exact hd (mem_keys.mpr ⟨d, h.written hj hu hr⟩)
  · rw [Store.afterCreation, get?_insert, if_pos rfl]

theorem free_zero (hr : real 0 = false)
    (hrows : ∀ key row, p.shared.store.tusData.get? key = some row → row.dataId ≠ 0)
    (hstore : ∀ (j : Nat) (job : SetJob), p.tasks[j]? ≠ some (.set job (.store 0))) :
    Free real p i s 0 data := by
  refine ⟨hrows, ?_, fun h => absurd h (by simp [hr]), fun h => absurd h (by simp [hr])⟩
  intro j u _ hj hu
  obtain ⟨⟨_, d⟩, hu, rfl⟩ := Option.map_eq_some_iff.mp hu
  obtain ⟨job, rfl⟩ := holding_data hu hr
  exact hstore j job hj

variable {c : Store.Creation} {place : SetPlace}

theorem Sound.create (h : Sound acc real p) (hi : p.tasks[i]? = some (.set job .create))
    (hg : Guarded real p (.next i c))
    (hplace : ∀ id d, (set job place).holding real = some (id, d) →
      d = job.req.data ∧ (p.shared.store.createTusDataFile job.req.data c).1 = some id) :
    Sound acc real (p.update i
      { p.shared with store := p.shared.store.afterCreation job.req.data c } (.set job place)) := by
  obtain ⟨hd, hc⟩ := hg job hi
  refine h.move hi (fun _ => by simp) (Store.tusData_afterCreation _ _ _) ?_ ?_ ?_
  · exact fun id d _ _ hf => Store.files_afterCreation hd hf
  · intro id d hhold
    obtain ⟨rfl, hid⟩ := hplace id d hhold
    right
    cases c with
    | complete =>
      cases hid
      exact h.free_dispenser hd hc
    | createFailed | writeFailed _ =>
      cases hid
      exact free_zero hc.1 hc.2.1 hc.2.2
    | interrupted _ => cases hid
  · exact fun key row hr => by cases hr

theorem Sound.set {place' : SetPlace} (h : Sound acc real p)
    (hi : p.tasks[i]? = some (.set job place)) (hg : Guarded real p (.next i c))
    (hs : SetStep acc c p.shared.store job place s place') :
    Sound acc real (p.update i { p.shared with store := s } (.set job place')) := by
  cases hs with
  | refused r hr | passed | failed dataId =>
    refine h.move hi (fun _ => by simp) rfl (fun _ _ _ _ hf => hf) ?_ ?_
    · exact fun id d hh => by cases hh
    · exact fun key row hr => by cases hr
  | created dataId hc =>
    refine h.create hi hg fun id d hh => ?_
    cases hh
    exact ⟨rfl, hc⟩
  | stopped hc => exact h.create hi hg fun id d hh => by cases hh
  | stored dataId known => exact h.store hi known
  | unmet dataId =>
    refine h.move hi (fun _ => by simp) rfl (fun _ _ _ _ hf => hf) ?_ ?_
    · intro id d hh
      left
      rw [holding] at hh
      split at hh
      · exact hh
      · cases hh
    · exact fun key row hr => by cases hr
  | cleaned dataId =>
    refine h.move hi (fun _ => by simp) rfl ?_ ?_ ?_
    · intro id d hid hkeep hf
      have hne : id ≠ dataId := by
        intro e
        have := hkeep job.req.data (by rw [holding, ← e, if_pos hid])
        cases this
      rw [Store.deleteTusData, get?_remove, if_neg hne]
      exact hf
    · exact fun id d hh => by cases hh
    · exact fun key row hr => by cases hr

theorem Sound.get {job : GetJob} {place place' : GetPlace} (h : Sound acc real p)
    (hi : p.tasks[i]? = some (.get job place))
    (hs : job.step acc p.shared.store place = some place') :
    Sound acc real (p.update i p.shared (.get job place')) := by
  refine h.move (s := p.shared.store) hi (fun _ => by simp) rfl (fun _ _ _ _ hf => hf) ?_ ?_
  · exact fun id d hh => by cases place' <;> cases hh
  · intro key row hr
    cases place with
    | select =>
      rw [GetJob.step] at hs
      split at hs
      · cases hs
        cases hr
      · rename_i row' hrow
        cases hs
        cases hr
        exact hrow
    | read row' =>
      rw [GetJob.step] at hs
      split at hs
      · cases hs
        cases hr
      · split at hs
        · cases hs
          cases hr
        · cases hs
          cases hr
    | replied r => cases hs
    | lost => cases hs

theorem Sound.serve {op : TusOp} (h : Sound acc real p) (hg : Guarded real p op)
    (hm : Moves acc p op p') : Sound acc real p' := by
  cases hm with
  | spawned waits => exact h.spawn (s := p.shared.store) waits rfl fun _ _ hk => hk
  | deleted keep hs =>
    rw [hs]
    exact h.spawn trivial rfl fun key row hk => (get?_retain_some.mp hk).1
  | set hi hs => exact h.set hi hg (SetJob.step_spec hs)
  | get hi hs => exact h.get hi hs
  | restart => exact h.restart

end Rpcn.Tus
