/-
  File:      Rpcn/Tus/Variable.lean
  Subject:   DOES `TusAddAndGetVariable` LOSE ANYTHING? Additions made by the database.

  A variable of a slot is an `i64` for the clients. The addition is made by SQLite, in one upsert:
  where the sum of two integers does not fit into 64 bits, SQLite adds them as floating point
  numbers and stores a REAL. Reading the column back as an `i64` then panics, in this request and
  in the later ones (`overflow_breaks_slot`).
-/
import Rpcn.Lib.Double
import Rpcn.Lib.Run
import Rpcn.Tus.Data

namespace Rpcn.Tus

open Lib
open Database (storable)

/-! ## 1. Numbers as SQLite adds and stores them -/

inductive SqlNumber where
  | integer (n : Int64)
  | real (x : Int)
  deriving DecidableEq

/-- Does a sum fit into an `i64`? -/
def FitsI64 (x : Int) : Prop := -2 ^ 63 ≤ x ∧ x < 2 ^ 63

instance (x : Int) : Decidable (FitsI64 x) := inferInstanceAs (Decidable (_ ∧ _))

namespace SqlNumber

/-- The affinity of a `BIGINT` column: a REAL that is a whole number inside the range of `i64`,
    without its ends, is stored as an INTEGER. -/
def ofReal (x : Int) : SqlNumber :=
  if -2 ^ 63 < x ∧ x < 2 ^ 63 - 1 then .integer (.ofInt x) else .real x

def add (a : SqlNumber) (b : Int64) : SqlNumber :=
  match a with
  | .integer n =>
    if FitsI64 (n.toInt + b.toInt) then .integer (.ofInt (n.toInt + b.toInt))
    else ofReal (roundDouble (roundDouble n.toInt + roundDouble b.toInt))
  | .real x => ofReal (roundDouble (x + roundDouble b.toInt))

/-- `r.get_unwrap` as an `i64`. -/
def getI64 : SqlNumber → Option Int64
  | .integer n => some n
  | .real _ => none

theorem add_integer {n b : Int64} (h : FitsI64 (n.toInt + b.toInt)) :
    ∃ v : Int64, add (.integer n) b = .integer v ∧ v.toInt = n.toInt + b.toInt :=
  ⟨_, if_pos h, Int64.toInt_ofInt_of_le h.1 h.2⟩

end SqlNumber

/-! ## 2. The table -/

structure VarRow where
  varValue : SqlNumber
  timestamp : UInt64
  authorId : UserId
  deriving DecidableEq

/-- The tables `tus_var` and `tus_var_vuser`. -/
abbrev VarTable := HashMap SlotKey VarRow

structure DbTusVarInfo where
  timestamp : UInt64
  authorId : UserId
  /-- `variable`, here and in `TusVariable`. -/
  value : Int64
  deriving DecidableEq

inductive VarPanic where
  | getUnwrap
  deriving DecidableEq

abbrev VarOutcome := Outcome ErrorType VarPanic

def VarRow.read (row : VarRow) : VarOutcome DbTusVarInfo :=
  match row.varValue.getI64 with
  | some value => .ok ⟨row.timestamp, row.authorId, value⟩
  | none => .panic .getUnwrap

structure TusAddAndGetVariableRequest where
  user : Option TusUser
  slotId : Int32
  inVariable : Int64
  isLastChangedDate : List UInt64
  isLastChangedAuthorId : String
  deriving DecidableEq

structure AddJob where
  clientId : UserId
  npid : String
  key : SlotKey
  toAdd : Int64
  timestamp : UInt64
  compareTimestamp : Option UInt64
  compareAuthor : Option UserId
  deriving DecidableEq

/-- `tus_add_and_get_user_variable`, `tus_add_and_get_vuser_variable`, with their errors as the
    `DbFail` that the handler makes of them. -/
def VarTable.addAndGet (acc : Account.Database) (job : AddJob) :
    Call ErrorType VarPanic VarTable DbTusVarInfo := fun table =>
  if !storable job.timestamp then (.err .dbFail, table)
  else
    let write (value : SqlNumber) : VarOutcome DbTusVarInfo × VarTable :=
      let row : VarRow := ⟨value, job.timestamp, job.clientId⟩
      if hasAccounts acc job.key.owner job.clientId then (row.read, table.insert job.key row)
      else (.err .dbFail, table)
    match table.get? job.key with
    | none => write (.integer job.toAdd)
    | some old =>
      if condHolds job.compareTimestamp job.compareAuthor old.timestamp old.authorId then
        write (old.varValue.add job.toAdd)
      -- no row was changed: the row there is selected
      else (old.read, table)

/-! ## 3. The handler -/

structure TusVariable where
  ownerId : String
  hasData : Bool
  lastChangedDate : UInt64
  lastChangedAuthorId : String
  value : Int64
  oldValue : Int64
  deriving DecidableEq

/-- `is_last_changed_author_id` of `tus_add_and_get_variable`: a name nobody has is passed over. -/
def compareAuthorOf (acc : Account.Database) (author : String) : Except Reply (Option UserId) :=
  if author = "" then .ok none
  else
    match acc.getUserId author with
    | .error .empty => .ok none
    | .error _ => .error (.error .dbFail)
    | .ok userId => .ok (some userId)

structure AddOp where
  clientId : UserId
  comId : ComId
  req : TusAddAndGetVariableRequest
  now : UInt64
  deriving DecidableEq

/-- `tus_add_and_get_variable`, up to its step on the table. -/
def AddOp.job (acc : Account.Database) (op : AddOp) : Except Reply AddJob := do
  let user ← checkUser op.req.user
  let compareTimestamp ← compareTimestamp op.req.isLastChangedDate
  let compareAuthor ← compareAuthorOf acc op.req.isLastChangedAuthorId
  let owner ← findOwnOwner acc op.clientId user
  return ⟨op.clientId, user.npid, ⟨owner, op.comId, op.req.slotId⟩, op.req.inVariable, op.now,
    compareTimestamp, compareAuthor⟩

def AddJob.reply (acc : Account.Database) (job : AddJob) (var : DbTusVarInfo) :
    VarOutcome (ErrorType × Option TusVariable) :=
  match acc.getUsername var.authorId with
  | .error _ => .err .dbFail
  | .ok author =>
    .ok (.noError, some ⟨job.npid, true, var.timestamp, author, var.value, var.value⟩)

def tusAddAndGetVariable (acc : Account.Database) (op : AddOp) :
    Call ErrorType VarPanic VarTable (ErrorType × Option TusVariable) :=
  match op.job acc with
  | .error (.ok e) => pure (e, none)
  | .error (.error e) => Call.fail e
  | .ok job => do
    let var ← VarTable.addAndGet acc job
    Call.ofOutcome (job.reply acc var)

/-- **The server**: requests of clients with accounts, in any order. -/
def varServer (acc : Account.Database) (table : VarTable) :
    System VarTable AddOp (VarOutcome (ErrorType × Option TusVariable)) where
  init := table
  enabled _ op := op.clientId ∈ acc.account.keys ∧ storable op.now = true
  step table op := tusAddAndGetVariable acc op table

/-! ## 4. Nothing is lost -/

/-- Every value stored is an `i64`. -/
def Readable (table : VarTable) : Prop :=
  ∀ key row, table.get? key = some row → ∃ n, row.varValue = .integer n

def stored (table : VarTable) (key : SlotKey) : Int :=
  ((table.get? key).bind fun row => row.varValue.getI64).elim 0 Int64.toInt

def AddOp.adds (acc : Account.Database) (key : SlotKey) (op : AddOp) : Int :=
  match op.job acc with
  | .ok job => if job.key = key then job.toAdd.toInt else 0
  | .error _ => 0

def AddOp.Unconditional (op : AddOp) : Prop :=
  op.req.isLastChangedDate = [] ∧ op.req.isLastChangedAuthorId = ""

/-- **The condition on a request**: it is unconditional, and the sum fits into an `i64`. -/
def NoOverflow (acc : Account.Database) (table : VarTable) (op : AddOp) : Prop :=
  op.Unconditional ∧ ∀ job, op.job acc = .ok job →
    FitsI64 (stored table job.key + job.toAdd.toInt)

variable {clientId : UserId} {owner : Owner}

theorem own_of_findOwnOwner {acc : Account.Database} {user : TusUser}
    (h : findOwnOwner acc clientId user = .ok owner) :
    ∀ userId, owner = .user userId → userId = clientId := by
  intro userId howner
  subst howner
  unfold findOwnOwner at h
  split at h
  · split at h
    · cases h
    · rename_i hne
      cases h
      exact not_not.mp hne
  · rename_i hno
    exact absurd h (hno userId)

variable {acc : Account.Database} {op : AddOp} {job : AddJob} {table : VarTable}

theorem AddOp.adds_job (h : op.job acc = .ok job) (key : SlotKey) :
    op.adds acc key = if job.key = key then job.toAdd.toInt else 0 := by
  unfold AddOp.adds
  rw [h]

variable {r : Reply}

theorem AddOp.adds_error (h : op.job acc = .error r) (key : SlotKey) : op.adds acc key = 0 := by
  unfold AddOp.adds
  rw [h]

theorem AddOp.job_eq_ok (h : op.job acc = .ok job) :
    job.clientId = op.clientId ∧ job.timestamp = op.now ∧
      compareTimestamp op.req.isLastChangedDate = .ok job.compareTimestamp ∧
      compareAuthorOf acc op.req.isLastChangedAuthorId = .ok job.compareAuthor ∧
      (∀ userId, job.key.owner = .user userId → userId = op.clientId) := by
  unfold AddOp.job at h
  obtain ⟨user, -, h⟩ := except_bind_ok h
  obtain ⟨date, hdate, h⟩ := except_bind_ok h
  obtain ⟨author, hauthor, h⟩ := except_bind_ok h
  obtain ⟨owner, howner, h⟩ := except_bind_ok h
  cases h
  exact ⟨rfl, rfl, hdate, hauthor, own_of_findOwnOwner howner⟩

theorem AddOp.job_spec (h : op.job acc = .ok job) (hu : op.Unconditional) :
    job.clientId = op.clientId ∧ job.timestamp = op.now ∧ job.compareTimestamp = none ∧
      job.compareAuthor = none ∧
      (∀ userId, job.key.owner = .user userId → userId = op.clientId) := by
  obtain ⟨hclient, htime, hdate, hauthor, howner⟩ := AddOp.job_eq_ok h
  rw [hu.1] at hdate
  rw [hu.2, compareAuthorOf, if_pos rfl] at hauthor
  exact ⟨hclient, htime, (Except.ok.inj hdate).symm, (Except.ok.inj hauthor).symm, howner⟩

def AddJob.row (job : AddJob) (v : Int64) : VarRow := ⟨.integer v, job.timestamp, job.clientId⟩

theorem stored_insert (table : VarTable) (job : AddJob) (v : Int64) (key : SlotKey) :
    stored (table.insert job.key (job.row v)) key =
      if key = job.key then v.toInt else stored table key := by
  unfold stored
  rw [HashMap.get?_insert]
  split <;> rfl

theorem Readable.insert (h : Readable table) (job : AddJob) (v : Int64) :
    Readable (table.insert job.key (job.row v)) := by
  intro key row hk
  rw [HashMap.get?_insert] at hk
  split at hk
  · cases hk
    exact ⟨v, rfl⟩
  · exact h key row hk

def AddJob.newValue (job : AddJob) (table : VarTable) : SqlNumber :=
  (table.get? job.key).elim (.integer job.toAdd) fun old => old.varValue.add job.toAdd

theorem addAndGet_eq (ht : storable job.timestamp = true)
    (ha : hasAccounts acc job.key.owner job.clientId = true)
    (hcmp : job.compareTimestamp = none) (hauthor : job.compareAuthor = none)
    (table : VarTable) :
    VarTable.addAndGet acc job table =
      (VarRow.read ⟨job.newValue table, job.timestamp, job.clientId⟩,
        table.insert job.key ⟨job.newValue table, job.timestamp, job.clientId⟩) := by
  unfold VarTable.addAndGet AddJob.newValue
  rw [ht]
  cases table.get? job.key with
  | none => simp [ha]
  | some old => simp [ha, hcmp, hauthor, condHolds]

theorem newValue_fits (hr : Readable table)
    (hfit : FitsI64 (stored table job.key + job.toAdd.toInt)) :
    ∃ v : Int64, job.newValue table = .integer v ∧
      v.toInt = stored table job.key + job.toAdd.toInt := by
  unfold AddJob.newValue stored at *
  cases hrow : table.get? job.key with
  | none => exact ⟨job.toAdd, rfl, (Int.zero_add _).symm⟩
  | some old =>
    obtain ⟨n, hn⟩ := hr _ _ hrow
    rw [hrow, Option.bind_some, hn] at hfit
    rw [Option.elim_some, Option.bind_some, hn]
    exact SqlNumber.add_integer hfit

theorem hasAccounts_of_own (howner : ∀ userId, owner = .user userId → userId = clientId)
    (hknown : clientId ∈ acc.account.keys) : hasAccounts acc owner clientId = true := by
  unfold hasAccounts
  rw [Bool.and_eq_true, decide_eq_true_eq]
  refine ⟨hknown, ?_⟩
  split
  · rename_i userId
    rw [howner userId rfl]
    exact decide_eq_true hknown
  · rfl

theorem AddOp.hasAccounts_job (hjob : op.job acc = .ok job)
    (hknown : op.clientId ∈ acc.account.keys) :
    hasAccounts acc job.key.owner job.clientId = true := by
  obtain ⟨hclient, _, _, _, howner⟩ := AddOp.job_eq_ok hjob
  rw [hclient]
  exact hasAccounts_of_own howner hknown

theorem tusAddAndGetVariable_spec (hjob : op.job acc = .ok job) (hr : Readable table)
    (hknown : op.clientId ∈ acc.account.keys) (hnow : storable op.now = true)
    (hg : NoOverflow acc table op) :
    ∃ (v : Int64) (author : String), v.toInt = stored table job.key + job.toAdd.toInt ∧
      tusAddAndGetVariable acc op table =
        (.ok (.noError, some ⟨job.npid, true, op.now, author, v, v⟩),
          table.insert job.key (job.row v)) := by
  obtain ⟨hclient, htime, hcmp, hauthor, _⟩ := AddOp.job_spec hjob hg.1
  obtain ⟨row, hrow⟩ := HashMap.mem_keys.mp hknown
  obtain ⟨v, hnew, hv⟩ := newValue_fits hr (hg.2 job hjob)
  have hcall := addAndGet_eq (htime ▸ hnow) (AddOp.hasAccounts_job hjob hknown) hcmp hauthor
    table
  rw [hnew] at hcall
  refine ⟨v, row.username, hv, ?_⟩
  unfold tusAddAndGetVariable
  rw [hjob]
  refine (Call.bind_ok hcall).trans ?_
  rw [AddJob.reply, AddJob.row, hclient, Account.Database.getUsername, hrow, htime]
  rfl

theorem tusAddAndGetVariable_error (hjob : op.job acc = .error r) (table : VarTable) :
    (tusAddAndGetVariable acc op table).2 = table := by
  unfold tusAddAndGetVariable
  rw [hjob]
  cases r <;> rfl

theorem tusAddAndGetVariable_adds (hr : Readable table) (hknown : op.clientId ∈ acc.account.keys)
    (hnow : storable op.now = true) (hg : NoOverflow acc table op) :
    Readable (tusAddAndGetVariable acc op table).2 ∧
      ∀ key, stored (tusAddAndGetVariable acc op table).2 key =
        stored table key + op.adds acc key := by
  cases hjob : op.job acc with
  | error r =>
    rw [tusAddAndGetVariable_error hjob]
    refine ⟨hr, fun key => ?_⟩
    rw [AddOp.adds_error hjob, Int.add_zero]
  | ok job =>
    obtain ⟨v, author, hv, hcall⟩ := tusAddAndGetVariable_spec hjob hr hknown hnow hg
    rw [hcall]
    refine ⟨hr.insert job v, fun key => ?_⟩
    rw [stored_insert, AddOp.adds_job hjob]
    by_cases hk : key = job.key
    · rw [if_pos hk, if_pos hk.symm, hk, hv]
    · rw [if_neg hk, if_neg (Ne.symm hk), Int.add_zero]

theorem stored_of_run {first : VarTable} (h0 : Readable first)
    {es : List (AddOp × VarOutcome (ErrorType × Option TusVariable))}
    (h : ((varServer acc first).restrict (NoOverflow acc)).Run es table) :
    Readable table ∧
      ∀ key, stored table key = stored first key + (es.map fun e => e.1.adds acc key).sum := by
  refine h.history (I := fun es table => Readable table ∧
    ∀ key, stored table key = stored first key + (es.map fun e => e.1.adds acc key).sum)
    ⟨h0, fun key => (Int.add_zero _).symm⟩ ?_
  intro es table op _ ⟨hr, hsum⟩ he
  obtain ⟨⟨hknown, hnow⟩, hg⟩ := he
  obtain ⟨hr', hadd⟩ := tusAddAndGetVariable_adds hr hknown hnow hg
  refine ⟨hr', fun key => (hadd key).trans ?_⟩
  rw [hsum key, List.map_append, List.sum_append, List.map_singleton, List.sum_singleton,
    Int.add_assoc]

/-- **AddAndGet loses nothing** in every run of unconditional requests whose sums fit into an `i64`,
    from every table of `i64` values: the values stored stay such; a slot holds its first value plus
    all that was added to it; and every request on a slot is answered, with the value that the slot
    has right after it. -/
theorem add_and_get_loses_nothing {first : VarTable} (h0 : Readable first)
    {es : List (AddOp × VarOutcome (ErrorType × Option TusVariable))}
    (h : ((varServer acc first).restrict (NoOverflow acc)).Run es table) :
    Readable table ∧
      (∀ key, stored table key = stored first key + (es.map fun e => e.1.adds acc key).sum) ∧
      ∀ before op out after job, es = before ++ (op, out) :: after → op.job acc = .ok job →
        ∃ var table', out = .ok (.noError, some var) ∧
          ((varServer acc first).restrict (NoOverflow acc)).Run (before ++ [(op, out)]) table' ∧
          (table'.get? job.key).map (·.varValue) = some (.integer var.value) := by
  obtain ⟨hr, hsum⟩ := stored_of_run h0 h
  refine ⟨hr, hsum, ?_⟩
  intro before op out after job hes hjob
  rw [hes] at h
  obtain ⟨table₁, hbefore, ⟨⟨hknown, hnow⟩, hg⟩, hout, hupto⟩ := h.split
  obtain ⟨hr₁, _⟩ := stored_of_run h0 hbefore
  obtain ⟨v, author, _, hcall⟩ := tusAddAndGetVariable_spec hjob hr₁ hknown hnow hg
  have hstep : ((varServer acc first).restrict (NoOverflow acc)).step table₁ op = _ := hcall
  rw [hstep] at hout hupto
  refine ⟨_, _, hout, hupto, ?_⟩
  rw [HashMap.get?_insert, if_pos rfl]
  rfl

def addOp (toAdd : Int64) : AddOp :=
  ⟨1, Vector.replicate 12 0, ⟨some ⟨true, "v"⟩, 0, toAdd, [], ""⟩, 1⟩

def addKey : SlotKey := ⟨.vuser "v", Vector.replicate 12 0, 0⟩

theorem addOp_enabled (first table : VarTable) (toAdd : Int64) :
    (varServer oneAccount first).enabled table (addOp toAdd) := by
  have h : (1 : UserId) ∈ oneAccount.account.keys ∧ storable 1 = true := by decide +kernel
  exact h

theorem addOp_guard {table : VarTable} {toAdd : Int64}
    (h : FitsI64 (stored table addKey + toAdd.toInt)) :
    NoOverflow oneAccount table (addOp toAdd) := by
  refine ⟨⟨rfl, rfl⟩, fun job hjob => ?_⟩
  cases hjob
  exact h

theorem add_and_get_loses_nothing_largest :
    ∃ es table, ((varServer oneAccount ∅).restrict (NoOverflow oneAccount)).Run es table ∧
      es.map (·.1) = [addOp (Int64.maxValue - 1), addOp 1] ∧ Readable table ∧
      stored table addKey = 2 ^ 63 - 1 := by
  have h0 : Readable ∅ := fun _ _ h => by cases h
  have h₁ := System.Run.start (M := (varServer oneAccount ∅).restrict (NoOverflow oneAccount))
  have h₂ := h₁.step (addOp (Int64.maxValue - 1))
    ⟨addOp_enabled _ _ _, addOp_guard (by decide +kernel)⟩
  have h₃ := h₂.step (addOp 1) ⟨addOp_enabled _ _ _, addOp_guard (by decide +kernel)⟩
  obtain ⟨hr, hsum, _⟩ := add_and_get_loses_nothing h0 h₃
  exact ⟨_, _, h₃, rfl, hr, (hsum addKey).trans (by decide +kernel)⟩

/-- **An overflow breaks the slot**: one more than the largest `i64` is a REAL. The request panics,
    and so does the next one, though it adds nothing. -/
theorem overflow_breaks_slot :
    ∃ es table, (varServer oneAccount ∅).Run es table ∧
      es.map (·.1) = [addOp Int64.maxValue, addOp 1, addOp 0] ∧
      es.map (·.2.isPanic) = [false, true, true] ∧
      (table.get? addKey).map (·.varValue) = some (.real (2 ^ 63)) := by
  have h₁ := System.Run.start (M := varServer oneAccount ∅)
  have h₂ := h₁.step (addOp Int64.maxValue) (addOp_enabled _ _ _)
  have h₃ := h₂.step (addOp 1) (addOp_enabled _ _ _)
  have h₄ := h₃.step (addOp 0) (addOp_enabled _ _ _)
  exact ⟨_, _, h₄, rfl, by decide +kernel, by decide +kernel⟩

end Rpcn.Tus
