/-
  File:      Rpcn/Tus/CompareAndSet.lean
  Subject:   IS A REFUSED COMPARE-AND-SET ANSWERED? `TusTryAndSetVariable` and
             `TusAddAndGetVariable`, statement by statement, among other requests.

  A conditional write is two statements: the upsert, which returns the row it wrote, and, where its
  clause excluded the row, a select of that row. Nothing orders them with the statements of other
  clients. A select that finds no row is taken for a failure of the database: the request is
  answered `DbFail`, and the client disconnected (`refused_then_deleted`).
-/
import Rpcn.Tus.TryAndSet

namespace Rpcn.Tus

open Lib
open Database (storable)

/-! ## 1. Statements -/

abbrev VarReply := VarOutcome (ErrorType × Option TusVariable)

instance : DecidableEq VarReply :=
  inferInstanceAs (DecidableEq (Outcome ErrorType VarPanic (ErrorType × Option TusVariable)))

namespace VarUpsert

/-- The upsert, with what its `RETURNING` gives; `none` where no row was changed. -/
def upsert (acc : Account.Database) (u : VarUpsert) (table : VarTable) :
    Option (VarOutcome DbTusVarInfo) × VarTable :=
  if !storable u.timestamp then (some (.err .dbFail), table)
  else
    let write (value : SqlNumber) : Option (VarOutcome DbTusVarInfo) × VarTable :=
      if hasAccounts acc u.key.owner u.clientId then
        (some (u.row value).read, table.insert u.key (u.row value))
      else (some (.err .dbFail), table)
    match table.get? u.key with
    | none => write u.inserted
    | some old =>
      if u.clause u.compareAuthor old then write (u.updated old) else (none, table)

/-- The select behind it; no row is an `Internal` error like any other. -/
def select (u : VarUpsert) (table : VarTable) : VarOutcome DbTusVarInfo :=
  match table.get? u.key with
  | none => .err .dbFail
  | some row => row.read

end VarUpsert

/-- `tus_set_user_variable`, `tus_set_vuser_variable`. An error is logged and passed over. -/
def VarTable.setVariable (acc : Account.Database) (key : SlotKey) (row : VarRow)
    (table : VarTable) : VarTable :=
  if storable row.timestamp && hasAccounts acc key.owner row.authorId then table.insert key row
  else table

/-- `tus_delete_user_variable_with_slotlist`, `tus_delete_vuser_variable_with_slotlist`. -/
def VarTable.deleteSlots (owner : Owner) (comId : ComId) (slotList : List Int32)
    (table : VarTable) : VarTable :=
  table.retain fun k _ => !(k.owner = owner ∧ k.comId = comId ∧ k.slotId ∈ slotList)

/-! ## 2. Requests -/

structure TusSetMultiSlotVariableRequest where
  user : Option TusUser
  slotIdArray : List Int32
  variableArray : List Int64
  deriving DecidableEq

structure TusDeleteMultiSlotVariableRequest where
  user : Option TusUser
  slotIdArray : List Int32
  deriving DecidableEq

/-- `tus_set_multislot_variable`, up to its first statement: whose slots it writes. -/
def tusSetMultislotVariable (acc : Account.Database) (clientId : UserId)
    (req : TusSetMultiSlotVariableRequest) : Except Reply Owner := do
  let user ← checkUser req.user
  if req.slotIdArray.length ≠ req.variableArray.length then throw (.error .malformed)
  findOwnOwner acc clientId user

/-- `tus_delete_multislot_variable`, up to its statement. -/
def tusDeleteMultislotVariable (acc : Account.Database) (clientId : UserId)
    (req : TusDeleteMultiSlotVariableRequest) : Except Reply Owner := do
  let user ← checkUser req.user
  if req.slotIdArray = [] then throw (.error .malformed)
  findOwnOwner acc clientId user

inductive WritePlace where
  | upsert
  | select
  | replied (r : VarReply)
  deriving DecidableEq

inductive VarTask where
  | write (u : VarUpsert) (place : WritePlace)
  /-- The slots still to be set. -/
  | set (clientId : UserId) (owner : Owner) (comId : ComId) (rest : List (Int32 × Int64))
  /-- The slots to delete; `none` once they are. -/
  | delete (clientId : UserId) (owner : Owner) (comId : ComId) (slots : Option (List Int32))
  /-- Answered before its first statement. -/
  | refused

inductive VarRequest where
  | write (w : VarWrite)
  | set (clientId : UserId) (comId : ComId) (req : TusSetMultiSlotVariableRequest)
  | delete (clientId : UserId) (comId : ComId) (req : TusDeleteMultiSlotVariableRequest)
  deriving DecidableEq

namespace VarRequest

def clientId : VarRequest → UserId
  | write w => w.clientId
  | set clientId _ _ => clientId
  | delete clientId _ _ => clientId

/-- The clock of a conditional write is read before its statements. -/
def inTime : VarRequest → Bool
  | write w => storable w.now
  | _ => true

def task (acc : Account.Database) : VarRequest → VarTask
  | write w =>
    match w.job acc with
    | .ok u => .write u .upsert
    | .error _ => .refused
  | set clientId comId req =>
    match tusSetMultislotVariable acc clientId req with
    | .ok owner => .set clientId owner comId (req.slotIdArray.zip req.variableArray)
    | .error _ => .refused
  | delete clientId comId req =>
    match tusDeleteMultislotVariable acc clientId req with
    | .ok owner => .delete clientId owner comId (some req.slotIdArray)
    | .error _ => .refused

end VarRequest

def VarTask.client : VarTask → Option UserId
  | .write u .upsert => some u.clientId
  | .write u .select => some u.clientId
  | .set clientId _ _ (_ :: _) => some clientId
  | .delete clientId _ _ (some _) => some clientId
  | _ => none

/-- **One statement.** `now` is the clock of a `TusSetMultiSlotVariable`. The author's name is read
    from the accounts, which no request here changes. -/
def VarTask.step (acc : Account.Database) (now : UInt64) (table : VarTable) :
    VarTask → Option (Option VarReply × VarTable × VarTask)
  | .write u .upsert =>
    match u.upsert acc table with
    | (none, table') => some (none, table', .write u .select)
    | (some o, table') =>
      some (some (o >>= u.reply acc), table', .write u (.replied (o >>= u.reply acc)))
  | .write u .select =>
    some (some (u.select table >>= u.reply acc), table,
      .write u (.replied (u.select table >>= u.reply acc)))
  | .set clientId owner comId ((slot, value) :: rest) =>
    some (none, table.setVariable acc ⟨owner, comId, slot⟩ ⟨.integer value, now, clientId⟩,
      .set clientId owner comId rest)
  | .delete clientId owner comId (some slots) =>
    some (none, table.deleteSlots owner comId slots, .delete clientId owner comId none)
  | _ => none

abbrev VarPool := Pool VarTable VarTask

inductive VarOp where
  | start (r : VarRequest)
  | step (i : Nat) (now : UInt64)
  deriving DecidableEq

def idle (p : VarPool) (clientId : UserId) : Bool :=
  p.tasks.all fun t => t.client ≠ some clientId

/-- One step of the server; the output is the answer to a conditional write, where one is given. -/
def VarPool.serve (acc : Account.Database) (p : VarPool) :
    VarOp → Option (Option VarReply × VarPool)
  | .start r =>
    if r.clientId ∈ acc.account.keys ∧ r.inTime ∧ idle p r.clientId then
      some (none, p.spawn (r.task acc))
    else none
  | .step i now => if storable now then p.act i (VarTask.step acc now) else none

/-- **The server**: requests of clients with accounts, their statements in any order. -/
def casServer (acc : Account.Database) (table : VarTable) :
    System VarPool VarOp (Option VarReply) :=
  .ofPartial ⟨table, []⟩ (VarPool.serve acc)

/-! ## 3. What a statement does -/

structure RowOk (acc : Account.Database) (row : VarRow) : Prop where
  value : ∃ v, row.varValue = .integer v
  author : row.authorId ∈ acc.account.keys

def TableOk (acc : Account.Database) (table : VarTable) : Prop :=
  ∀ key row, table.get? key = some row → RowOk acc row

def Own (clientId : UserId) (owner : Owner) : Prop :=
  ∀ userId, owner = .user userId → userId = clientId

structure UpsertOk (acc : Account.Database) (u : VarUpsert) : Prop where
  own : Own u.clientId u.key.owner
  client : u.clientId ∈ acc.account.keys
  time : storable u.timestamp = true
  inserted : ∃ v, u.inserted = .integer v

def VarTask.Ok (acc : Account.Database) : VarTask → Prop
  | .write u _ => UpsertOk acc u
  | .set clientId owner _ _ => clientId ∈ acc.account.keys ∧ Own clientId owner
  | .delete clientId owner _ _ => Own clientId owner
  | .refused => True

variable {row : VarRow}

variable {acc : Account.Database}

theorem RowOk.read (h : RowOk acc row) :
    ∃ v, row.varValue = .integer v ∧ row.read = .ok ⟨row.timestamp, row.authorId, v⟩ := by
  obtain ⟨v, hv⟩ := h.value
  refine ⟨v, hv, ?_⟩
  unfold VarRow.read
  rw [hv]
  rfl

/-- **The answer that shows a row.** -/
def Shows (acc : Account.Database) (npid : String) (row : VarRow) (r : VarReply) : Prop :=
  ∃ v author, row.varValue = .integer v ∧ acc.getUsername row.authorId = .ok author ∧
    r = .ok (.noError, some ⟨npid, true, row.timestamp, author, v, v⟩)

theorem RowOk.shows (h : RowOk acc row) (u : VarUpsert) :
    Shows acc u.npid row (row.read >>= u.reply acc) := by
  obtain ⟨v, hv, hread⟩ := h.read
  obtain ⟨a, ha⟩ := HashMap.mem_keys.mp h.author
  have hname : acc.getUsername row.authorId = .ok a.username := by
    rw [Account.Database.getUsername, ha]
  refine ⟨v, a.username, hv, hname, ?_⟩
  rw [hread]
  show u.reply acc _ = _
  rw [VarUpsert.reply, hname]

def Deletes (owner : Owner) (comId : ComId) (slots : List Int32) (key : SlotKey) : Prop :=
  key.owner = owner ∧ key.comId = comId ∧ key.slotId ∈ slots

instance (owner : Owner) (comId : ComId) (slots : List Int32) (key : SlotKey) :
    Decidable (Deletes owner comId slots key) := inferInstanceAs (Decidable (_ ∧ _ ∧ _))

/-- **What a statement may do to the table**: leave it, write one row, or delete slots of one
    owner. -/
inductive Steps (acc : Account.Database) (table : VarTable) (t : VarTask) : VarTable → Prop where
  | same : Steps acc table t table
  | written (key : SlotKey) (row : VarRow) (h : RowOk acc row) :
      Steps acc table t (table.insert key row)
  | deleted {clientId : UserId} {owner : Owner} {comId : ComId} {slots : List Int32}
      (ht : t = .delete clientId owner comId (some slots)) :
      Steps acc table t (table.deleteSlots owner comId slots)

section Steps

variable {acc : Account.Database} {table table' : VarTable} {t : VarTask}

theorem Steps.tableOk (h : Steps acc table t table') (ht : TableOk acc table) :
    TableOk acc table' := by
  cases h with
  | same => exact ht
  | written key row hrow =>
    intro k r hk
    rw [HashMap.get?_insert] at hk
    split at hk
    · cases hk
      exact hrow
    · exact ht k r hk
  | deleted _ =>
    intro k r hk
    exact ht k r (HashMap.get?_retain_some.mp hk).1

theorem Steps.isSome (h : Steps acc table t table') {key : SlotKey}
    (hkey : (table.get? key).isSome = true)
    (hd : ∀ clientId owner comId slots, t = .delete clientId owner comId (some slots) →
      ¬ Deletes owner comId slots key) : (table'.get? key).isSome = true := by
  cases h with
  | same => exact hkey
  | written k row _ =>
    rw [HashMap.get?_insert]
    split
    · rfl
    · exact hkey
  | deleted ht =>
    obtain ⟨row, hrow⟩ := Option.isSome_iff_exists.mp hkey
    refine Option.isSome_iff_exists.mpr ⟨row, HashMap.get?_retain_some.mpr ⟨hrow, ?_⟩⟩
    show (!decide (Deletes _ _ _ key)) = true
    rw [decide_eq_false (hd _ _ _ _ ht)]
    rfl

end Steps

variable {u : VarUpsert}

theorem VarUpsert.upsert_cases (hu : UpsertOk acc u) (table : VarTable) :
    (∃ value, u.upsert acc table = (some (u.row value).read, table.insert u.key (u.row value)) ∧
      ((table.get? u.key = none ∧ value = u.inserted) ∨
        ∃ old, table.get? u.key = some old ∧ u.clause u.compareAuthor old = true ∧
          value = u.updated old)) ∨
    (u.upsert acc table = (none, table) ∧
      ∃ old, table.get? u.key = some old ∧ u.clause u.compareAuthor old = false) := by
  have hacc : hasAccounts acc u.key.owner u.clientId = true := hasAccounts_of_own hu.own hu.client
  unfold upsert
  simp only [hu.time, hacc, Bool.not_true, Bool.false_eq_true, if_false, if_true]
  cases hrow : table.get? u.key with
  | none => exact Or.inl ⟨u.inserted, rfl, Or.inl ⟨rfl, rfl⟩⟩
  | some old =>
    cases hcond : u.clause u.compareAuthor old with
    | true =>
      refine Or.inl ⟨u.updated old, ?_, Or.inr ⟨old, rfl, hcond, rfl⟩⟩
      simp only [hcond, if_true]
    | false =>
      refine Or.inr ⟨?_, old, rfl, hcond⟩
      simp only [hcond, Bool.false_eq_true, if_false]

/-! ## 4. The condition, and the invariant -/

/-- **The condition on a step**: an upsert that changes a row leaves an `i64` there, and no row of a
    virtual user is deleted that a refused request is about to select. -/
def CasGuard (p : VarPool) : VarOp → Prop
  | .start _ => True
  | .step i _ =>
    (∀ u old, p.tasks[i]? = some (.write u .upsert) → p.shared.get? u.key = some old →
      u.clause u.compareAuthor old = true → ∃ v, u.updated old = .integer v) ∧
    ∀ clientId name comId slots,
      p.tasks[i]? = some (.delete clientId (.vuser name) comId (some slots)) →
      ∀ (j : Nat) u, p.tasks[j]? = some (.write u .select) →
        ¬ Deletes (.vuser name) comId slots u.key

def VarTask.Waits (table : VarTable) : VarTask → Prop
  | .write u .select => (table.get? u.key).isSome = true
  | _ => True

structure CasInv (acc : Account.Database) (p : VarPool) : Prop where
  table : TableOk acc p.shared
  apart : p.Apart VarTask.client
  tasks : p.All fun _ _ t => t.Ok acc
  waiting : p.All fun table _ t => t.Waits table

/-- **One statement of a request**: what it does to the table, where the request is afterwards, and
    the answer it gives. -/
structure StepOk (acc : Account.Database) (table : VarTable) (t : VarTask) (e : Option VarReply)
    (table' : VarTable) (t' : VarTask) : Prop where
  steps : Steps acc table t table'
  ok : t'.Ok acc
  client : ∀ c, t'.client = some c → t.client = some c
  waits : t'.Waits table'
  answer : ∀ r, e = some r → ∃ u row, t' = .write u (.replied r) ∧
    table'.get? u.key = some row ∧ Shows acc u.npid row r

variable {clientId : UserId} {owner : Owner} {comId : ComId}

section Step

variable {acc : Account.Database} {table table' : VarTable} {t t' : VarTask} {e : Option VarReply}
  {now : UInt64}

theorem stepOk_upsert (hu : UpsertOk acc u)
    (hfits : ∀ old, table.get? u.key = some old → u.clause u.compareAuthor old = true →
      ∃ v, u.updated old = .integer v)
    (h : (VarTask.write u .upsert).step acc now table = some (e, table', t')) :
    StepOk acc table (.write u .upsert) e table' t' := by
  rcases VarUpsert.upsert_cases hu table with ⟨value, hup, hvalue⟩ | ⟨hup, old, hrow, -⟩
  · have hrow : RowOk acc (u.row value) := by
      refine ⟨?_, hu.client⟩
      rcases hvalue with ⟨-, rfl⟩ | ⟨old, hold, hcond, rfl⟩
      · exact hu.inserted
      · exact hfits old hold hcond
    simp only [VarTask.step, hup] at h
    cases h
    refine ⟨.written _ _ hrow, hu, fun _ hc => (by cases hc), trivial, ?_⟩
    intro r hr
    cases hr
    exact ⟨u, u.row value, rfl, by rw [HashMap.get?_insert, if_pos rfl], hrow.shows u⟩
  · simp only [VarTask.step, hup] at h
    cases h
    refine ⟨.same, hu, fun c hc => hc, ?_, fun _ hr => (by cases hr)⟩
    exact Option.isSome_iff_exists.mpr ⟨old, hrow⟩

theorem stepOk_select (ht : TableOk acc table) (hu : UpsertOk acc u)
    (hw : (table.get? u.key).isSome = true)
    (h : (VarTask.write u .select).step acc now table = some (e, table', t')) :
    StepOk acc table (.write u .select) e table' t' := by
  obtain ⟨row, hrow⟩ := Option.isSome_iff_exists.mp hw
  have hsel : u.select table = row.read := by
    rw [VarUpsert.select, hrow]
  simp only [VarTask.step, hsel] at h
  cases h
  refine ⟨.same, hu, fun _ hc => (by cases hc), trivial, ?_⟩
  intro r hr
  cases hr
  exact ⟨u, row, rfl, hrow, (ht _ _ hrow).shows u⟩

theorem stepOk_set {slot : Int32} {value : Int64} {rest : List (Int32 × Int64)}
    (hok : clientId ∈ acc.account.keys ∧ Own clientId owner)
    (h : (VarTask.set clientId owner comId ((slot, value) :: rest)).step acc now table =
      some (e, table', t')) :
    StepOk acc table (.set clientId owner comId ((slot, value) :: rest)) e table' t' := by
  simp only [VarTask.step] at h
  cases h
  refine ⟨?_, hok, ?_, trivial, fun _ hr => (by cases hr)⟩
  · unfold VarTable.setVariable
    split
    · exact .written _ _ ⟨⟨value, rfl⟩, hok.1⟩
    · exact .same
  · intro c hc
    cases rest with
    | nil => cases hc
    | cons x rest => exact hc

theorem step_ok (ht : TableOk acc table) (hok : t.Ok acc) (hw : t.Waits table)
    (hfits : ∀ u old, t = .write u .upsert → table.get? u.key = some old →
      u.clause u.compareAuthor old = true → ∃ v, u.updated old = .integer v)
    (h : t.step acc now table = some (e, table', t')) : StepOk acc table t e table' t' := by
  cases t with
  | write u place =>
    cases place with
    | upsert => exact stepOk_upsert hok (fun old => hfits u old rfl) h
    | select => exact stepOk_select ht hok hw h
    | replied r => cases h
  | set clientId owner comId rest =>
    cases rest with
    | nil => cases h
    | cons x rest => exact stepOk_set hok h
  | delete clientId owner comId slots =>
    cases slots with
    | none => cases h
    | some slots =>
      cases h
      exact ⟨.deleted rfl, hok, fun _ hc => (by cases hc), trivial, fun _ hr => (by cases hr)⟩
  | refused => cases h

end Step

/-! ## 5. Runs -/

theorem own_of_set {req : TusSetMultiSlotVariableRequest}
    (h : tusSetMultislotVariable acc clientId req = .ok owner) : Own clientId owner := by
  unfold tusSetMultislotVariable at h
  obtain ⟨user, -, h⟩ := except_bind_ok h
  split at h
  · cases h
  · exact own_of_findOwnOwner h

theorem own_of_delete {req : TusDeleteMultiSlotVariableRequest}
    (h : tusDeleteMultislotVariable acc clientId req = .ok owner) : Own clientId owner := by
  unfold tusDeleteMultislotVariable at h
  obtain ⟨user, -, h⟩ := except_bind_ok h
  split at h
  · cases h
  · exact own_of_findOwnOwner h

variable {r : VarRequest}

theorem VarRequest.task_ok (hknown : r.clientId ∈ acc.account.keys) (htime : r.inTime = true) :
    (r.task acc).Ok acc ∧ (∀ c, (r.task acc).client = some c → c = r.clientId) ∧
      ∀ table, (r.task acc).Waits table := by
  have hrefused : VarTask.refused.Ok acc ∧
      (∀ c, VarTask.refused.client = some c → c = r.clientId) ∧
        ∀ table, VarTask.refused.Waits table :=
    ⟨trivial, fun _ hc => (by cases hc), fun _ => trivial⟩
  cases r with
  | write w =>
    cases hjob : w.job acc with
    | error e =>
      rw [task, hjob]
      exact hrefused
    | ok u =>
      obtain ⟨hclient, hnow, -, hown⟩ := VarWrite.job_eq_ok hjob
      rw [task, hjob]
      refine ⟨⟨?_, ?_, ?_, VarWrite.job_inserted hjob⟩, ?_, fun _ => trivial⟩
      · rw [hclient]
        exact hown
      · rw [hclient]
        exact hknown
      · rw [hnow]
        exact htime
      · intro c hc
        exact (Option.some.inj hc).symm.trans hclient
  | set clientId comId req =>
    cases howner : tusSetMultislotVariable acc clientId req with
    | error e =>
      rw [task, howner]
      exact hrefused
    | ok owner =>
      rw [task, howner]
      refine ⟨⟨hknown, own_of_set howner⟩, ?_, fun _ => trivial⟩
      intro c hc
      dsimp only at hc
      cases hzip : req.slotIdArray.zip req.variableArray with
      | nil =>
        rw [hzip] at hc
        cases hc
      | cons x rest =>
        rw [hzip] at hc
        exact (Option.some.inj hc).symm
  | delete clientId comId req =>
    cases howner : tusDeleteMultislotVariable acc clientId req with
    | error e =>
      rw [task, howner]
      exact hrefused
    | ok owner =>
      rw [task, howner]
      exact ⟨own_of_delete howner, fun c hc => (Option.some.inj hc).symm, fun _ => trivial⟩

variable {j i : Nat}

section Runs

variable {acc : Account.Database} {p p' : VarPool} {op : VarOp} {e : Option VarReply}

theorem not_busy_of_idle (h : idle p clientId = true) {u : VarTask} (hj : p.tasks[j]? = some u) :
    u.client ≠ some clientId := by
  have := List.all_eq_true.mp h u (List.mem_of_getElem? hj)
  simpa using this

theorem CasInv.start (h : CasInv acc p) (hknown : r.clientId ∈ acc.account.keys)
    (htime : r.inTime = true) (hidle : idle p r.clientId = true) :
    CasInv acc (p.spawn (r.task acc)) := by
  obtain ⟨hok, hclient, hwaits⟩ := VarRequest.task_ok hknown htime
  refine ⟨h.table, h.apart.spawn_free ?_, h.tasks.spawn hok, h.waiting.spawn (hwaits _)⟩
  intro k hk j u hj
  rw [hclient k hk]
  exact not_busy_of_idle hidle hj

variable {now : UInt64}

theorem CasInv.row_stays {t : VarTask} (h : CasInv acc p) (hg : CasGuard p (.step i now))
    (hi : p.tasks[i]? = some t) (hj : p.tasks[j]? = some (.write u .select)) (hne : j ≠ i)
    {slots : List Int32} (ht : t = .delete clientId owner comId (some slots)) :
    ¬ Deletes owner comId slots u.key := by
  subst ht
  intro hd
  cases owner with
  | vuser name => exact hg.2 clientId name comId slots hi j u hj hd
  | user userId =>
    have hdeleter : userId = clientId := h.tasks i _ hi userId rfl
    have hwaiter : userId = u.clientId := (h.tasks j _ hj).own userId hd.1
    refine hne (h.apart j i _ _ userId hj hi ?_ ?_)
    · rw [hwaiter]
      rfl
    · rw [hdeleter]
      rfl

theorem CasInv.serve (h : CasInv acc p) (hg : CasGuard p op) (hs : p.serve acc op = some (e, p')) :
    CasInv acc p' ∧ ∀ r, e = some r → ∃ i now u row, op = .step i now ∧
      p'.tasks[i]? = some (.write u (.replied r)) ∧ p'.shared.get? u.key = some row ∧
      Shows acc u.npid row r := by
  cases op with
  | start r =>
    rw [VarPool.serve] at hs
    split at hs
    · rename_i hen
      cases hs
      exact ⟨h.start hen.1 hen.2.1 hen.2.2, fun _ hr => (by cases hr)⟩
    · cases hs
  | step i now =>
    rw [VarPool.serve] at hs
    split at hs
    · obtain ⟨t, table', t', hi, hstep, rfl⟩ := Pool.act_eq_some hs
      have hfits : ∀ u old, t = .write u .upsert → p.shared.get? u.key = some old →
          u.clause u.compareAuthor old = true → ∃ v, u.updated old = .integer v := by
        intro u old ht
        subst ht
        exact hg.1 u old hi
      have hok := step_ok h.table (h.tasks i t hi) (h.waiting i t hi) hfits hstep
      refine ⟨⟨hok.steps.tableOk h.table, ?_, ?_, ?_⟩, ?_⟩
      · exact h.apart.update hi fun c hc => Or.inl (hok.client c hc)
      · exact h.tasks.update hok.ok fun _ _ _ _ hu => hu
      · refine h.waiting.update hok.waits ?_
        intro j w hne hj hw
        cases w with
        | write u place =>
          cases place with
          | select =>
            exact hok.steps.isSome hw fun _ _ _ _ ht => h.row_stays hg hi hj hne ht
          | upsert => trivial
          | replied r => trivial
        | set _ _ _ _ => trivial
        | delete _ _ _ _ => trivial
        | refused => trivial
      · intro r hr
        obtain ⟨u, row, rfl, hrow, hshows⟩ := hok.answer r hr
        exact ⟨i, now, u, row, rfl, Pool.get_update_self hi, hrow, hshows⟩
    · cases hs

theorem casInv_of_run {first : VarTable} (h0 : TableOk acc first)
    {es : List (VarOp × Option VarReply)}
    (h : ((casServer acc first).restrict CasGuard).Run es p) : CasInv acc p := by
  refine h.carried_restrict (I := fun _ p => CasInv acc p) ?_ ?_
  · refine ⟨h0, ?_, ?_, ?_⟩
    · intro i j t u k hi
      cases hi
    · intro i t hi
      cases hi
    · intro i t hi
      cases hi
  · intro es p op e p' _ hg hI hs
    exact (hI.serve hg hs).1

theorem serve_unanswered {place : WritePlace} (hi : p.tasks[i]? = some (.write u place))
    (hplace : ∀ r, place ≠ .replied r) (hnow : storable now = true) :
    ∃ e p', p.serve acc (.step i now) = some (e, p') ∧
      (e = none → place = .upsert ∧ p'.tasks[i]? = some (.write u .select)) := by
  rw [VarPool.serve, if_pos hnow, Pool.act, hi]
  cases place with
  | upsert =>
    cases hup : u.upsert acc p.shared with
    | mk o table' =>
      cases o with
      | none =>
        simp only [VarTask.step, hup, Option.map_some]
        exact ⟨_, _, rfl, fun _ => ⟨trivial, Pool.get_update_self hi⟩⟩
      | some o =>
        simp only [VarTask.step, hup, Option.map_some]
        exact ⟨_, _, rfl, fun h => (by cases h)⟩
  | select => exact ⟨_, _, rfl, fun h => (by cases h)⟩
  | replied r => exact absurd rfl (hplace r)

theorem serve_row_gone (hi : p.tasks[i]? = some (.write u .select))
    (hgone : p.shared.get? u.key = none) (hnow : storable now = true) :
    ∃ p', p.serve acc (.step i now) = some (some (.err .dbFail), p') := by
  have hsel : u.select p.shared = .err .dbFail := by
    rw [VarUpsert.select, hgone]
  rw [VarPool.serve, if_pos hnow, Pool.act, hi]
  simp only [VarTask.step, hsel, Option.map_some]
  exact ⟨_, rfl⟩

/-- **A refused compare-and-set is answered**, in every run that meets the condition, from every
    table of readable rows: an answer to a conditional write is `NoError` with the value, the time
    and the author of the row that its slot holds right after its last statement; and a request not
    yet answered is so by its next statement or the one after. A select whose row is gone is
    answered `DbFail`. -/
theorem compare_and_set_answered {first : VarTable} (h0 : TableOk acc first)
    {es : List (VarOp × Option VarReply)}
    (h : ((casServer acc first).restrict CasGuard).Run es p) :
    (∀ before op r after, es = before ++ (op, some r) :: after →
      ∃ i now u row p', op = .step i now ∧
        ((casServer acc first).restrict CasGuard).Run (before ++ [(op, some r)]) p' ∧
        p'.tasks[i]? = some (.write u (.replied r)) ∧ p'.shared.get? u.key = some row ∧
        Shows acc u.npid row r) ∧
    (∀ (i : Nat) u place now, p.tasks[i]? = some (.write u place) →
      (∀ r, place ≠ .replied r) → storable now = true →
      ∃ e p', p.serve acc (.step i now) = some (e, p') ∧
        (e = none → place = .upsert ∧ p'.tasks[i]? = some (.write u .select))) ∧
    ∀ (q : VarPool) (i : Nat) u now, q.tasks[i]? = some (.write u .select) →
      q.shared.get? u.key = none → storable now = true →
      ∃ q', q.serve acc (.step i now) = some (some (.err .dbFail), q') := by
  refine ⟨?_, fun i u place now hi hplace hnow => serve_unanswered hi hplace hnow,
    fun q i u now hi hgone hnow => serve_row_gone hi hgone hnow⟩
  intro before op r after hes
  rw [hes] at h
  obtain ⟨q, q', hbefore, hg, hs, hupto⟩ := h.split_restrict
  obtain ⟨i, now, u, row, hop, hi, hrow, hshows⟩ :=
    ((casInv_of_run h0 hbefore).serve hg hs).2 r rfl
  exact ⟨i, now, u, row, q', hop, hupto, hi, hrow, hshows⟩

end Runs

/-! ## 6. A slot deleted in between -/

def casGuard (p : VarPool) : VarOp → Bool
  | .start _ => true
  | .step i _ =>
    match p.tasks[i]? with
    | some (.write u .upsert) =>
      match p.shared.get? u.key with
      | none => true
      | some old => !u.clause u.compareAuthor old || (u.updated old).getI64.isSome
    | some (.delete _ (.vuser name) comId (some slots)) =>
      p.tasks.all fun t =>
        match t with
        | .write u .select => !decide (Deletes (.vuser name) comId slots u.key)
        | _ => true
    | _ => true

theorem casGuard_spec (p : VarPool) (op : VarOp) (h : casGuard p op = true) : CasGuard p op := by
  cases op with
  | start r => trivial
  | step i now =>
    refine ⟨?_, ?_⟩
    · intro u old hi hrow hcond
      simp only [casGuard, hi, hrow, hcond, Bool.not_true, Bool.false_or] at h
      cases hv : u.updated old with
      | integer v => exact ⟨v, rfl⟩
      | real x =>
        rw [hv] at h
        cases h
    · intro clientId name comId slots hi j u hj
      simp only [casGuard, hi] at h
      have := List.all_eq_true.mp h _ (List.mem_of_getElem? hj)
      simpa using this

theorem adasTable_ok : TableOk twoAccounts adasTable := by
  have hada : (1 : UserId) ∈ twoAccounts.account.keys := by decide +kernel
  intro key row hk
  unfold adasTable at hk
  rw [HashMap.get?_insert] at hk
  split at hk
  · cases hk
    exact ⟨⟨10, rfl⟩, hada⟩
  · cases hk

def eveSets : VarOp :=
  .start (.write (.tryAndSet ⟨2, Vector.replicate 12 0, ⟨some ⟨true, "v"⟩, 0, 1, 11, [], "", [5]⟩, 2⟩))

def adaSets : VarOp := .start (.set 1 (Vector.replicate 12 0) ⟨some ⟨true, "v"⟩, [0], [7]⟩)

def adaDeletes : VarOp := .start (.delete 1 (Vector.replicate 12 0) ⟨some ⟨true, "v"⟩, [0]⟩)

theorem compare_and_set_answered_between :
    ∃ p npid row, ((casServer twoAccounts adasTable).restrict CasGuard).Run
        [(eveSets, none), (.step 0 2, none), (adaSets, none), (.step 1 3, none),
          (.step 0 4, some (.ok (.noError, some ⟨"v", true, 3, "ada", 7, 7⟩)))] p ∧
      Shows twoAccounts npid row (.ok (.noError, some ⟨"v", true, 3, "ada", 7, 7⟩)) := by
  have hrun : (System.execute
      (fun p op => if casGuard p op then VarPool.serve twoAccounts p op else none)
      (casServer twoAccounts adasTable).init
      [eveSets, .step 0 2, adaSets, .step 1 3, .step 0 4]).map (·.1) =
      some [(eveSets, none), (.step 0 2, none), (adaSets, none), (.step 1 3, none),
        (.step 0 4, some (.ok (.noError, some ⟨"v", true, 3, "ada", 7, 7⟩)))] := by
    decide +kernel
  obtain ⟨⟨es, p⟩, hr, rfl⟩ := Option.map_eq_some_iff.mp hrun
  have h := System.Run.start.execute_restrict casGuard_spec hr
  rw [List.nil_append] at h
  obtain ⟨i, now, u, row, p', -, -, -, -, hshows⟩ := (compare_and_set_answered adasTable_ok h).1
    [(eveSets, none), (.step 0 2, none), (adaSets, none), (.step 1 3, none)] _ _ [] rfl
  exact ⟨p, u.npid, row, h, hshows⟩

/-- **A refused compare-and-set is answered `DbFail`**: `ada` deletes the slot between the upsert
    of `eve`'s request and its select. -/
theorem refused_then_deleted :
    ∃ p, (casServer twoAccounts adasTable).Run
      [(eveSets, none), (.step 0 2, none), (adaDeletes, none), (.step 1 3, none),
        (.step 0 4, some (.err .dbFail))] p := by
  have hrun : (System.execute (VarPool.serve twoAccounts) (casServer twoAccounts adasTable).init
      [eveSets, .step 0 2, adaDeletes, .step 1 3, .step 0 4]).map (·.1) =
      some [(eveSets, none), (.step 0 2, none), (adaDeletes, none), (.step 1 3, none),
        (.step 0 4, some (.err .dbFail))] := by
    decide +kernel
  obtain ⟨⟨es, p⟩, hr, rfl⟩ := Option.map_eq_some_iff.mp hrun
  have h := System.Run.start.execute hr
  rw [List.nil_append] at h
  exact ⟨p, h⟩

end Rpcn.Tus
