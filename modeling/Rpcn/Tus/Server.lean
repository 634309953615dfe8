/-
  File:      Rpcn/Tus/Server.lean
  Subject:   REQUESTS ON TUS DATA, interleaved at their steps, and restarts between them.

  A handler works on the store in single steps, and nothing orders the steps of two handlers:
  * `TusSetData` -- the preliminary check, the creation of the file, the upsert, and, where the
    upsert changed no row, the deletion of the own file;
  * `TusGetData` -- the select of the row, then the read of the file;
  * `TusDeleteMultiSlotData` -- one statement.
  What a handler does before its first step reads only the request and the accounts.
-/
import Rpcn.Lib.Run
import Rpcn.Lib.Tasks
import Rpcn.Tus.Data

namespace Rpcn.Tus

open Lib

/-! ## 1. Jobs -/

/-- `is_last_changed_author_id` of `tus_set_data`. -/
def compareAuthorId (acc : Account.Database) (author : String) : Except Reply (Option UserId) :=
  if author = "" then .ok none
  else
    match acc.getUserId author with
    | .error .empty => .error (.ok .condFail)
    | .error _ => .error (.error .dbFail)
    | .ok userId => .ok (some userId)

structure SetJob where
  clientId : UserId
  req : TusSetDataRequest
  key : SlotKey
  compareTimestamp : Option UInt64
  compareAuthorId : Option UserId
  newTimestamp : UInt64
  deriving DecidableEq

def SetJob.row (job : SetJob) (dataId : UInt64) : DataRow :=
  ⟨dataId, job.req.info, job.newTimestamp, job.clientId⟩

/-- `tus_set_data`, up to its first step on the store. -/
def tusSetData (acc : Account.Database) (clientId : UserId) (comId : ComId)
    (req : TusSetDataRequest) (newTimestamp : UInt64) : Except Reply SetJob := do
  let user ← checkUser req.user
  if req.data = [] then throw (.error .malformed)
  if req.info.length > sceNpTusDataInfoMaxSize then throw (.error .malformed)
  if req.data.length > undocumentedTusDataMaxSize then throw (.error .malformed)
  let compareTimestamp ← compareTimestamp req.isLastChangedDate
  let compareAuthorId ← compareAuthorId acc req.isLastChangedAuthorId
  let owner ← findOwnOwner acc clientId user
  return ⟨clientId, req, ⟨owner, comId, req.slotId⟩, compareTimestamp, compareAuthorId, newTimestamp⟩

structure GetJob where
  npid : String
  key : SlotKey
  deriving DecidableEq

/-- `tus_get_data`, up to its first step on the store. -/
def tusGetData (acc : Account.Database) (comId : ComId) (req : TusGetDataRequest) :
    Except Reply GetJob := do
  let user ← checkUser req.user
  let owner ← findOwner acc user
  return ⟨user.npid, ⟨owner, comId, req.slotId⟩⟩

def tusDeleteMultislotData (acc : Account.Database) (s : Store) (clientId : UserId) (comId : ComId)
    (req : TusDeleteMultiSlotDataRequest) : Except Reply Store := do
  let user ← checkUser req.user
  if req.slotIdArray = [] then throw (.error .malformed)
  let owner ← findOwnOwner acc clientId user
  return s.deleteDataWithSlotlist owner comId req.slotIdArray

/-! ## 2. Steps -/

inductive SetPlace where
  | check
  | create
  | store (dataId : UInt64)
  | delete (dataId : UInt64)
  | replied (r : Reply)
  /-- The server was stopped before the reply. -/
  | lost
  deriving DecidableEq

def SetJob.step (acc : Account.Database) (c : Store.Creation) (s : Store) (job : SetJob) :
    SetPlace → Option (Store × SetPlace)
  | .check =>
    match preliminarySetTusDataCheck (s.tusData.get? job.key) job.compareTimestamp
        job.compareAuthorId with
    | some r => some (s, .replied r)
    | none => some (s, .create)
  | .create =>
    match s.createTusDataFile job.req.data c with
    | (some dataId, s) => some (s, .store dataId)
    | (none, s) => some (s, .lost)
  | .store dataId =>
    match s.setData acc job.key (job.row dataId) job.compareTimestamp job.compareAuthorId with
    | .ok s => some (s, .replied (.ok .noError))
    | .error .empty => some (s, .delete dataId)
    | .error _ => some (s, .replied (.error .dbFail))
  | .delete dataId => some (s.deleteTusData dataId, .replied (.ok .condFail))
  | .replied _ | .lost => none

inductive GetPlace where
  | select
  | read (row : DataRow)
  | replied (r : Except ErrorType TusData)
  | lost
  deriving DecidableEq

def noData (npid : String) : TusData := ⟨some ⟨npid, false, 0, "", []⟩, []⟩

def dataOf (npid author : String) (row : DataRow) (data : List UInt8) : TusData :=
  ⟨some ⟨npid, true, row.timestamp, author, row.dataInfo⟩, data⟩

def GetJob.step (acc : Account.Database) (s : Store) (job : GetJob) : GetPlace → Option GetPlace
  | .select =>
    match s.tusData.get? job.key with
    | none => some (.replied (.ok (noData job.npid)))
    | some row => some (.read row)
  | .read row =>
    match s.getTusDataFile row.dataId with
    | .error _ => some (.replied (.error .dbFail))
    | .ok data =>
      match acc.getUsername row.authorId with
      | .error _ => some (.replied (.error .dbFail))
      | .ok author => some (.replied (.ok (dataOf job.npid author row data)))
  | .replied _ | .lost => none

/-! ## 3. The server -/

inductive Task where
  | set (job : SetJob) (place : SetPlace)
  | get (job : GetJob) (place : GetPlace)
  /-- A request that was answered at once. -/
  | finished (r : Reply)
  deriving DecidableEq

/-- A restart ends what was not answered. -/
def Task.cut : Task → Task
  | .set job (.replied r) => .set job (.replied r)
  | .set job _ => .set job .lost
  | .get job (.replied r) => .get job (.replied r)
  | .get job _ => .get job .lost
  | .finished r => .finished r

structure World where
  store : Store
  running : Bool

abbrev Server := Pool World Task

inductive TusOp where
  | setData (clientId : UserId) (comId : ComId) (req : TusSetDataRequest) (now : UInt64)
  | getData (comId : ComId) (req : TusGetDataRequest)
  | deleteMultislotData (clientId : UserId) (comId : ComId) (req : TusDeleteMultiSlotDataRequest)
  /-- The next step of request `i`; `c` says how the creation of a file goes. -/
  | next (i : Nat) (c : Store.Creation)
  | restart

def Task.step (acc : Account.Database) (c : Store.Creation) (w : World) :
    Task → Option (Unit × World × Task)
  | .set job place =>
    (job.step acc c w.store place).map fun r => ((), { w with store := r.1 }, .set job r.2)
  | .get job place => (job.step acc w.store place).map fun r => ((), w, .get job r)
  | .finished _ => none

/-- `Server::new`, on what the last one left. -/
def World.restart (w : World) : World :=
  match w.store.serverNew with
  | .ok s => ⟨s, true⟩
  | .error _ => ⟨w.store.initializeTusDataHandler, false⟩

def Server.request (acc : Account.Database) (p : Server) : TusOp → Option (Unit × Server)
  | .setData clientId comId req now =>
    match tusSetData acc clientId comId req now with
    | .ok job => some ((), p.spawn (.set job .check))
    | .error r => some ((), p.spawn (.finished r))
  | .getData comId req =>
    match tusGetData acc comId req with
    | .ok job => some ((), p.spawn (.get job .select))
    | .error r => some ((), p.spawn (.finished r))
  | .deleteMultislotData clientId comId req =>
    match tusDeleteMultislotData acc p.shared.store clientId comId req with
    | .ok s => some ((), Pool.spawn ⟨{ p.shared with store := s }, p.tasks⟩
        (.finished (.ok .noError)))
    | .error r => some ((), p.spawn (.finished r))
  | .next i c => p.act i (Task.step acc c)
  | .restart => none

def Server.serve (acc : Account.Database) (p : Server) : TusOp → Option (Unit × Server)
  | .restart => some ((), ⟨p.shared.restart, p.tasks.map Task.cut⟩)
  | op => if p.shared.running then p.request acc op else none

/-- **The server**, from a new installation on. -/
def tusServer (acc : Account.Database) : System Server TusOp Unit :=
  .ofPartial ⟨⟨.start, true⟩, []⟩ (Server.serve acc)

/-! ## 4. What one step can do -/

/-- A request that has made no step on the store, or needs none. -/
def Task.Waits : Task → Prop
  | .set _ .check | .get _ .select | .finished _ => True
  | _ => False

inductive Moves (acc : Account.Database) (p : Server) : TusOp → Server → Prop where
  /-- A request comes in. -/
  | spawned {op : TusOp} {t : Task} (waits : t.Waits) : Moves acc p op (p.spawn t)
  /-- Rows were deleted. -/
  | deleted {op : TusOp} {s : Store} (keep : SlotKey → Bool)
      (hs : s = { p.shared.store with tusData := p.shared.store.tusData.retain fun k _ => keep k }) :
      Moves acc p op
        (Pool.spawn ⟨{ p.shared with store := s }, p.tasks⟩ (.finished (.ok .noError)))
  | set {i : Nat} {c : Store.Creation} {job : SetJob} {place place' : SetPlace} {s : Store}
      (hi : p.tasks[i]? = some (.set job place))
      (hs : job.step acc c p.shared.store place = some (s, place')) :
      Moves acc p (.next i c) (p.update i { p.shared with store := s } (.set job place'))
  | get {i : Nat} {c : Store.Creation} {job : GetJob} {place place' : GetPlace}
      (hi : p.tasks[i]? = some (.get job place))
      (hs : job.step acc p.shared.store place = some place') :
      Moves acc p (.next i c) (p.update i p.shared (.get job place'))
  | restart : Moves acc p .restart ⟨p.shared.restart, p.tasks.map Task.cut⟩

variable {acc : Account.Database} {s s' : Store}

theorem tusDeleteMultislotData_eq_ok {clientId : UserId} {comId : ComId}
    {req : TusDeleteMultiSlotDataRequest}
    (h : tusDeleteMultislotData acc s clientId comId req = .ok s') :
    ∃ owner, s' = s.deleteDataWithSlotlist owner comId req.slotIdArray := by
  unfold tusDeleteMultislotData at h
  cases hu : checkUser req.user with
  | error r => simp [hu, bind, Except.bind] at h
  | ok user =>
    by_cases he : req.slotIdArray = []
    · simp [hu, he, bind, Except.bind, throw, throwThe, MonadExceptOf.throw] at h
    · cases ho : findOwnOwner acc clientId user with
      | error r => simp [hu, he, ho, bind, Except.bind] at h
      | ok owner =>
        simp only [hu, he, ho, bind, Except.bind, pure, Except.pure, if_false] at h
        exact ⟨owner, (Except.ok.inj h).symm⟩

theorem Server.serve_moves {p p' : Server} {op : TusOp} {e : Unit}
    (h : p.serve acc op = some (e, p')) : Moves acc p op p' := by
  cases op with
  | restart =>
    cases h
    exact .restart
  | setData clientId comId req now =>
    simp only [serve, request] at h
    split at h
    · split at h
      all_goals
        cases h
        exact .spawned trivial
    · cases h
  | getData comId req =>
    simp only [serve, request] at h
    split at h
    · split at h
      all_goals
        cases h
        exact .spawned trivial
    · cases h
  | deleteMultislotData clientId comId req =>
    simp only [serve, request] at h
    split at h
    · split at h
      · rename_i s hs
        cases h
        obtain ⟨owner, rfl⟩ := tusDeleteMultislotData_eq_ok hs
        exact .deleted _ rfl
      · cases h
        exact .spawned trivial
    · cases h
  | next i c =>
    simp only [serve, request] at h
    split at h
    · obtain ⟨t, w, t', hi, ht, rfl⟩ := Pool.act_eq_some h
      cases t with
      | set job place =>
        obtain ⟨⟨s, place'⟩, hs, hr⟩ := Option.map_eq_some_iff.mp ht
        cases hr
        exact .set hi hs
      | get job place =>
        obtain ⟨place', hs, hr⟩ := Option.map_eq_some_iff.mp ht
        cases hr
        exact .get hi hs
      | finished r => cases ht
    · cases h

inductive SetStep (acc : Account.Database) (c : Store.Creation) (s : Store) (job : SetJob) :
    SetPlace → Store → SetPlace → Prop where
  | refused (r : Reply) (hr : r ≠ .ok .noError) : SetStep acc c s job .check s (.replied r)
  | passed : SetStep acc c s job .check s .create
  | created (dataId : UInt64) (hc : (s.createTusDataFile job.req.data c).1 = some dataId) :
      SetStep acc c s job .create (s.afterCreation job.req.data c) (.store dataId)
  | stopped (hc : (s.createTusDataFile job.req.data c).1 = none) :
      SetStep acc c s job .create (s.afterCreation job.req.data c) .lost
  | stored (dataId : UInt64) (known : job.clientId ∈ acc.account.keys) :
      SetStep acc c s job (.store dataId)
        { s with tusData := s.tusData.insert job.key (job.row dataId) } (.replied (.ok .noError))
  | unmet (dataId : UInt64) : SetStep acc c s job (.store dataId) s (.delete dataId)
  | failed (dataId : UInt64) :
      SetStep acc c s job (.store dataId) s (.replied (.error .dbFail))
  | cleaned (dataId : UInt64) :
      SetStep acc c s job (.delete dataId) (s.deleteTusData dataId) (.replied (.ok .condFail))

variable {t : Option UInt64} {a : Option UserId}

theorem preliminarySetTusDataCheck_ne {row : Option DataRow} {r : Reply}
    (h : preliminarySetTusDataCheck row t a = some r) : r = .ok .condFail := by
  unfold preliminarySetTusDataCheck at h
  split at h
  · split at h
    · cases h
    · split at h
      · exact (Option.some.inj h).symm
      · split at h
        · exact (Option.some.inj h).symm
        · cases h
  · cases h

theorem Store.setData_eq_ok {key : SlotKey} {row : DataRow}
    (h : s.setData acc key row t a = .ok s') :
    s' = { s with tusData := s.tusData.insert key row } ∧ row.authorId ∈ acc.account.keys := by
  unfold setData at h
  split at h
  · cases h
  · split at h
    · cases h
    · split at h
      · rename_i hk
        refine ⟨(Except.ok.inj h).symm, ?_⟩
        unfold hasAccounts at hk
        rw [Bool.and_eq_true, decide_eq_true_eq] at hk
        exact hk.1
      · cases h

theorem SetJob.step_spec {c : Store.Creation} {job : SetJob} {place place' : SetPlace}
    (h : job.step acc c s place = some (s', place')) : SetStep acc c s job place s' place' := by
  cases place with
  | check =>
    rw [step] at h
    split at h
    · rename_i r hr
      cases h
      rw [preliminarySetTusDataCheck_ne hr]
      exact .refused _ (by simp)
    · cases h
      exact .passed
  | create =>
    rw [step] at h
    split at h
    · rename_i dataId s₁ hc
      have hs : s₁ = s.afterCreation job.req.data c := (congrArg Prod.snd hc).symm
      cases h
      rw [hs]
      exact .created dataId (congrArg Prod.fst hc)
    · rename_i s₁ hc
      have hs : s₁ = s.afterCreation job.req.data c := (congrArg Prod.snd hc).symm
      cases h
      rw [hs]
      exact .stopped (congrArg Prod.fst hc)
  | store dataId =>
    rw [step] at h
    split at h
    · rename_i s₁ hs
      cases h
      obtain ⟨rfl, known⟩ := Store.setData_eq_ok hs
      exact .stored dataId known
    · cases h
      exact .unmet dataId
    · cases h
      exact .failed dataId
  | delete dataId =>
    cases h
    exact .cleaned dataId
  | replied r => cases h
  | lost => cases h

end Rpcn.Tus
