/-
  File:      Rpcn/Tus/TryAndSet.lean
  Subject:   THE AUTHOR CONDITION of `TusAddAndGetVariable` and `TusTryAndSetVariable`.

  Both requests write a variable by one conditional upsert and answer with the row it returned, or
  else with the row there. They may ask that the row was last changed by a user, who is looked up
  by name first; a name nobody has becomes `None`, and that is no condition at all in the clause.
  `TusSetData` answers `CondFail` for such a name.
-/
import Rpcn.Account.Spec
import Rpcn.Tus.Condition
import Rpcn.Tus.Variable

namespace Rpcn.Tus

open Lib
open Database (storable)

/-! ## 1. The clause -/

inductive TusOpeType where
  | equal
  | notEqual
  | greaterThan
  | greaterOrEqual
  | lessThan
  | lessOrEqual
  deriving DecidableEq, Repr

def TusOpeType.fromI32 (n : Int32) : Option TusOpeType :=
  if n = 1 then some equal
  else if n = 2 then some notEqual
  else if n = 3 then some greaterThan
  else if n = 4 then some greaterOrEqual
  else if n = 5 then some lessThan
  else if n = 6 then some lessOrEqual
  else none

def TusOpeType.compareOp : TusOpeType → Sql.CompareOp
  | equal => .eq
  | notEqual => .ne
  | greaterThan => .gt
  | greaterOrEqual => .ge
  | lessThan => .lt
  | lessOrEqual => .le

/-- The comparisons of the clause; the seventh parameter is the value to compare with. -/
def prepareTryAndSetCond (compareOp : TusOpeType) (compareTimestamp : Option UInt64)
    (compareAuthor : Option UserId) : Sql.Where Column :=
  ⟨.varValue, compareOp.compareOp, .param 7⟩ :: prepareCond compareTimestamp compareAuthor

def prepareTryAndSetCondString (compareOp : TusOpeType) (compareTimestamp : Option UInt64)
    (compareAuthor : Option UserId) : String :=
  let op :=
    match compareOp with
    | .equal => "=="
    | .notEqual => "!="
    | .greaterThan => ">"
    | .greaterOrEqual => ">="
    | .lessThan => "<"
    | .lessOrEqual => "<="
  let conditional := "var_value " ++ op ++ " ?7"
  let conditional :=
    match compareTimestamp with
    | some t => conditional ++ " AND timestamp <= " ++ toString t
    | none => conditional
  match compareAuthor with
  | some a => conditional ++ " AND author_id == " ++ toString a
  | none => conditional

theorem varValue_text (op : Sql.CompareOp) : "var_value " ++ op.symbol ++ " ?7" =
    Sql.Comparison.text Column.name ⟨.varValue, op, .param 7⟩ := by
  show _ = "var_value" ++ " " ++ op.symbol ++ " " ++ ("?" ++ "7")
  rw [show "var_value " = "var_value" ++ " " by decide, show " ?7" = " " ++ ("?" ++ "7") by decide]
  simp only [String.append_assoc]

theorem prepareTryAndSetCondString_eq (compareOp : TusOpeType) (compareTimestamp : Option UInt64)
    (compareAuthor : Option UserId) :
    prepareTryAndSetCondString compareOp compareTimestamp compareAuthor =
      (prepareTryAndSetCond compareOp compareTimestamp compareAuthor).text Column.name := by
  have hop : (match compareOp with
      | .equal => "=="
      | .notEqual => "!="
      | .greaterThan => ">"
      | .greaterOrEqual => ">="
      | .lessThan => "<"
      | .lessOrEqual => "<=") = compareOp.compareOp.symbol := by
    cases compareOp <;> rfl
  have htime : " AND timestamp <= " = " AND " ++ ("timestamp" ++ " " ++ "<=" ++ " ") := by decide
  have hauthor : " AND author_id == " = " AND " ++ ("author_id" ++ " " ++ "==" ++ " ") := by decide
  unfold prepareTryAndSetCondString
  dsimp only
  rw [hop, varValue_text, htime, hauthor]
  generalize hvalue : Sql.Comparison.text Column.name
    ⟨.varValue, compareOp.compareOp, .param 7⟩ = value
  cases compareTimestamp with
  | none =>
    cases compareAuthor with
    | none => exact hvalue.symm
    | some a =>
      show _ = _ ++ " AND " ++ ("author_id" ++ " " ++ "==" ++ " " ++ toString a)
      rw [hvalue]
      simp only [String.append_assoc]
  | some t =>
    cases compareAuthor with
    | none =>
      show _ = _ ++ " AND " ++ ("timestamp" ++ " " ++ "<=" ++ " " ++ toString t)
      rw [hvalue]
      simp only [String.append_assoc]
    | some a =>
      show _ = _ ++ " AND " ++ ("timestamp" ++ " " ++ "<=" ++ " " ++ toString t) ++ " AND " ++
        ("author_id" ++ " " ++ "==" ++ " " ++ toString a)
      rw [hvalue]
      simp only [String.append_assoc]

theorem holds_tryAndSetCond_author (compareOp : TusOpeType) (compareTimestamp : Option UInt64)
    (author : UserId) (params : Nat → Int) (row : Column → Int) :
    (prepareTryAndSetCond compareOp compareTimestamp (some author)).holds params row =
      ((prepareTryAndSetCond compareOp compareTimestamp none).holds params row &&
        decide (row .authorId = author)) := by
  have hmore : prepareTryAndSetCond compareOp compareTimestamp (some author) =
      prepareTryAndSetCond compareOp compareTimestamp none ++ [⟨.authorId, .eq, .i64 author⟩] := by
    simp [prepareTryAndSetCond, prepareCond]
  rw [hmore, Sql.Where.holds, List.all_append, List.all_cons, List.all_nil, Bool.and_true]
  rfl

/-! ## 2. One upsert -/

def SqlNumber.toInt : SqlNumber → Int
  | .integer n => n.toInt
  | .real x => x

def VarRow.column (row : VarRow) : Column → Int
  | .varValue => row.varValue.toInt
  | .timestamp => row.timestamp.toNat
  | .authorId => row.authorId

/-- **A conditional write of a variable**: what it inserts, what it makes of the row there, and the
    meaning of its clause, by the author to compare with. An author is one more comparison. -/
structure VarUpsert where
  clientId : UserId
  npid : String
  key : SlotKey
  timestamp : UInt64
  inserted : SqlNumber
  updated : VarRow → SqlNumber
  clause : Option UserId → VarRow → Bool
  compareAuthor : Option UserId
  clause_author : ∀ author old,
    clause (some author) old = (clause none old && decide (old.authorId = author))

namespace VarUpsert

def row (u : VarUpsert) (value : SqlNumber) : VarRow := ⟨value, u.timestamp, u.clientId⟩

/-- The upsert with its `RETURNING`, and the select where it changed no row; the errors are the
    `DbFail` that the handlers make of them. -/
def run (acc : Account.Database) (u : VarUpsert) : Call ErrorType VarPanic VarTable DbTusVarInfo :=
  fun table =>
    if !storable u.timestamp then (.err .dbFail, table)
    else
      let write (value : SqlNumber) : VarOutcome DbTusVarInfo × VarTable :=
        if hasAccounts acc u.key.owner u.clientId then
          ((u.row value).read, table.insert u.key (u.row value))
        else (.err .dbFail, table)
      match table.get? u.key with
      | none => write u.inserted
      | some old =>
        if u.clause u.compareAuthor old then write (u.updated old) else (old.read, table)

def reply (acc : Account.Database) (u : VarUpsert) (var : DbTusVarInfo) :
    VarOutcome (ErrorType × Option TusVariable) :=
  match acc.getUsername var.authorId with
  | .error _ => .err .dbFail
  | .ok author => .ok (.noError, some ⟨u.npid, true, var.timestamp, author, var.value, var.value⟩)

def call (acc : Account.Database) (u : VarUpsert) :
    Call ErrorType VarPanic VarTable (ErrorType × Option TusVariable) := do
  let var ← u.run acc
  Call.ofOutcome (u.reply acc var)

variable {acc : Account.Database} {u : VarUpsert} {table : VarTable} {old : VarRow}

theorem call_table : (u.call acc table).2 = (u.run acc table).2 := by
  unfold call
  rw [Call.bind_run]
  generalize u.run acc table = answer
  obtain ⟨outcome, table'⟩ := answer
  cases outcome <;> rfl

theorem call_refused (hrow : table.get? u.key = some old)
    (hcond : u.clause u.compareAuthor old = false) : (u.call acc table).2 = table := by
  rw [call_table]
  cases htime : storable u.timestamp <;>
    simp only [run, htime, hrow, hcond, Bool.not_true, Bool.not_false, Bool.false_eq_true, if_false,
      if_true]

theorem call_shown (htime : storable u.timestamp = true) (hrow : table.get? u.key = some old)
    (hcond : u.clause u.compareAuthor old = false) {author : String}
    (hauthor : acc.getUsername old.authorId = .ok author) {v : Int64}
    (hv : old.varValue = .integer v) :
    (u.call acc table).1 = .ok (.noError, some ⟨u.npid, true, old.timestamp, author, v, v⟩) := by
  have hrun : u.run acc table = (.ok ⟨old.timestamp, old.authorId, v⟩, table) := by
    simp only [run, htime, hrow, hcond, Bool.not_true, Bool.false_eq_true, if_false, VarRow.read,
      hv]
    rfl
  unfold call
  rw [Call.bind_ok hrun, reply, hauthor]
  rfl

theorem call_written (htime : storable u.timestamp = true)
    (hacc : hasAccounts acc u.key.owner u.clientId = true) (hrow : table.get? u.key = some old)
    (hcond : u.clause u.compareAuthor old = true) :
    (u.call acc table).2 = table.insert u.key (u.row (u.updated old)) := by
  rw [call_table]
  simp only [run, htime, hrow, hcond, hacc, Bool.not_true, Bool.false_eq_true, if_false, if_true]

end VarUpsert

def AddJob.upsert (job : AddJob) : VarUpsert where
  clientId := job.clientId
  npid := job.npid
  key := job.key
  timestamp := job.timestamp
  inserted := .integer job.toAdd
  updated old := old.varValue.add job.toAdd
  clause author old := condHolds job.compareTimestamp author old.timestamp old.authorId
  compareAuthor := job.compareAuthor
  clause_author _ _ := by simp only [condHolds, Option.all_some, Option.all_none, Bool.and_true]

variable {acc : Account.Database}

theorem tusAddAndGetVariable_eq {op : AddOp} {job : AddJob} (h : op.job acc = .ok job) :
    tusAddAndGetVariable acc op = job.upsert.call acc := by
  have hrun : VarTable.addAndGet acc job = job.upsert.run acc := rfl
  unfold tusAddAndGetVariable
  rw [h]
  show (VarTable.addAndGet acc job >>= fun var => Call.ofOutcome (job.reply acc var)) = _
  rw [hrun]
  rfl

/-! ## 3. `TusTryAndSetVariable` -/

structure TusTryAndSetVariableRequest where
  user : Option TusUser
  slotId : Int32
  opeType : Int32
  /-- `variable`. -/
  value : Int64
  isLastChangedDate : List UInt64
  isLastChangedAuthorId : String
  compareValue : List Int64
  deriving DecidableEq

structure TryOp where
  clientId : UserId
  comId : ComId
  req : TusTryAndSetVariableRequest
  now : UInt64
  deriving DecidableEq

def opeType (n : Int32) : Except Reply TusOpeType :=
  match TusOpeType.fromI32 n with
  | none => .error (.error .malformed)
  | some op => .ok op

/-- `compare_value`: one value to compare with, or the one to set. -/
def compareValueOf (toSet : Int64) : List Int64 → Except Reply Int64
  | [] => .ok toSet
  | [v] => .ok v
  | _ => .error (.error .malformed)

/-- The upsert of `tus_try_and_set_user_variable`, `tus_try_and_set_vuser_variable`. -/
def tryAndSetUpsert (clientId : UserId) (npid : String) (key : SlotKey) (toSet : Int64)
    (timestamp : UInt64) (compareValue : Int64) (compareOp : TusOpeType)
    (compareTimestamp : Option UInt64) (compareAuthor : Option UserId) : VarUpsert where
  clientId
  npid
  key
  timestamp
  inserted := .integer toSet
  updated _ := .integer toSet
  clause author old := (prepareTryAndSetCond compareOp compareTimestamp author).holds
    (fun _ => compareValue.toInt) old.column
  compareAuthor
  clause_author _ _ := holds_tryAndSetCond_author ..

/-- `tus_try_and_set_variable`, up to its step on the table. -/
def TryOp.job (acc : Account.Database) (op : TryOp) : Except Reply VarUpsert := do
  let user ← checkUser op.req.user
  let compareOp ← opeType op.req.opeType
  let compareValue ← compareValueOf op.req.value op.req.compareValue
  let compareTimestamp ← compareTimestamp op.req.isLastChangedDate
  let compareAuthor ← compareAuthorOf acc op.req.isLastChangedAuthorId
  let owner ← findOwnOwner acc op.clientId user
  return tryAndSetUpsert op.clientId user.npid ⟨owner, op.comId, op.req.slotId⟩ op.req.value op.now
    compareValue compareOp compareTimestamp compareAuthor

theorem TryOp.job_eq_ok {op : TryOp} {u : VarUpsert} (h : op.job acc = .ok u) :
    ∃ user compareOp compareValue date author owner,
      compareAuthorOf acc op.req.isLastChangedAuthorId = .ok author ∧
      findOwnOwner acc op.clientId user = .ok owner ∧
      u = tryAndSetUpsert op.clientId user.npid ⟨owner, op.comId, op.req.slotId⟩ op.req.value op.now
        compareValue compareOp date author := by
  unfold TryOp.job at h
  obtain ⟨user, -, h⟩ := except_bind_ok h
  obtain ⟨compareOp, -, h⟩ := except_bind_ok h
  obtain ⟨compareValue, -, h⟩ := except_bind_ok h
  obtain ⟨date, -, h⟩ := except_bind_ok h
  obtain ⟨author, hauthor, h⟩ := except_bind_ok h
  obtain ⟨owner, howner, h⟩ := except_bind_ok h
  exact ⟨user, compareOp, compareValue, date, author, owner, hauthor, howner,
    (Except.ok.inj h).symm⟩

def tusTryAndSetVariable (acc : Account.Database) (op : TryOp) :
    Call ErrorType VarPanic VarTable (ErrorType × Option TusVariable) :=
  match op.job acc with
  | .error (.ok e) => pure (e, none)
  | .error (.error e) => Call.fail e
  | .ok u => u.call acc

/-! ## 4. Both requests -/

inductive VarWrite where
  | addAndGet (op : AddOp)
  | tryAndSet (op : TryOp)
  deriving DecidableEq

namespace VarWrite

def clientId : VarWrite → UserId
  | addAndGet op => op.clientId
  | tryAndSet op => op.clientId

def now : VarWrite → UInt64
  | addAndGet op => op.now
  | tryAndSet op => op.now

def isLastChangedAuthorId : VarWrite → String
  | addAndGet op => op.req.isLastChangedAuthorId
  | tryAndSet op => op.req.isLastChangedAuthorId

def call (acc : Account.Database) :
    VarWrite → Call ErrorType VarPanic VarTable (ErrorType × Option TusVariable)
  | addAndGet op => tusAddAndGetVariable acc op
  | tryAndSet op => tusTryAndSetVariable acc op

def job (acc : Account.Database) : VarWrite → Except Reply VarUpsert
  | addAndGet op => (op.job acc).map AddJob.upsert
  | tryAndSet op => op.job acc

variable {acc : Account.Database} {w : VarWrite} {u : VarUpsert} {table : VarTable}

theorem job_cases (h : w.job acc = .ok u) :
    (∃ op job, w = .addAndGet op ∧ op.job acc = .ok job ∧ u = job.upsert) ∨
      ∃ op, w = .tryAndSet op ∧ op.job acc = .ok u := by
  cases w with
  | addAndGet op =>
    cases hjob : op.job acc with
    | error r =>
      rw [job, hjob] at h
      cases h
    | ok job =>
      rw [VarWrite.job, hjob] at h
      exact Or.inl ⟨op, job, rfl, hjob, (Except.ok.inj h).symm⟩
  | tryAndSet op => exact Or.inr ⟨op, rfl, h⟩

theorem call_eq (h : w.job acc = .ok u) : w.call acc = u.call acc := by
  rcases job_cases h with ⟨op, job, rfl, hjob, rfl⟩ | ⟨op, rfl, hjob⟩
  · exact tusAddAndGetVariable_eq hjob
  · rw [call, tusTryAndSetVariable, hjob]

theorem call_error {r : Reply} (h : w.job acc = .error r) (table : VarTable) :
    (w.call acc table).2 = table := by
  cases w with
  | addAndGet op =>
    cases hjob : op.job acc with
    | error r' => exact tusAddAndGetVariable_error hjob table
    | ok job =>
      rw [VarWrite.job, hjob] at h
      cases h
  | tryAndSet op =>
    have h : op.job acc = .error r := h
    rw [call, tusTryAndSetVariable, h]
    cases r <;> rfl

theorem job_eq_ok (h : w.job acc = .ok u) : u.clientId = w.clientId ∧ u.timestamp = w.now ∧
    compareAuthorOf acc w.isLastChangedAuthorId = .ok u.compareAuthor ∧
    (∀ userId, u.key.owner = .user userId → userId = w.clientId) := by
  rcases job_cases h with ⟨op, job, rfl, hjob, rfl⟩ | ⟨op, rfl, hjob⟩
  · obtain ⟨hclient, htime, -, hauthor, howner⟩ := AddOp.job_eq_ok hjob
    exact ⟨hclient, htime, hauthor, howner⟩
  · obtain ⟨user, compareOp, compareValue, date, author, owner, hauthor, howner, rfl⟩ :=
      TryOp.job_eq_ok hjob
    exact ⟨rfl, rfl, hauthor, own_of_findOwnOwner howner⟩

theorem job_inserted (h : w.job acc = .ok u) : ∃ v, u.inserted = .integer v := by
  rcases job_cases h with ⟨op, job, rfl, hjob, rfl⟩ | ⟨op, rfl, hjob⟩
  · exact ⟨job.toAdd, rfl⟩
  · obtain ⟨user, compareOp, compareValue, date, author, owner, hauthor, howner, rfl⟩ :=
      TryOp.job_eq_ok hjob
    exact ⟨op.req.value, rfl⟩

end VarWrite

variable {name : String}

theorem compareAuthorOf_cases {author : Option UserId} (h : compareAuthorOf acc name = .ok author)
    (hasked : name ≠ "") :
    (∃ userId, acc.getUserId name = .ok userId ∧ author = some userId) ∨
      (acc.getUserId name = .error .empty ∧ author = none) := by
  rw [compareAuthorOf, if_neg hasked] at h
  cases hid : acc.getUserId name with
  | ok userId =>
    rw [hid] at h
    exact Or.inl ⟨userId, rfl, (Except.ok.inj h).symm⟩
  | error e =>
    rw [hid] at h
    cases e with
    | empty => exact Or.inr ⟨rfl, (Except.ok.inj h).symm⟩
    | _ => cases h

theorem getUserId_ne {authorName : String} {userId author : UserId}
    (hname : acc.getUserId name = .ok userId) (hauthor : acc.getUsername author = .ok authorName)
    (hother : name ≠ authorName) : author ≠ userId := by
  intro h
  obtain ⟨row, hrow, husername⟩ := Account.Database.getUserId_ok hname
  rw [← h] at hrow
  rw [Account.Database.getUsername, hrow] at hauthor
  exact hother (husername.symm.trans (Except.ok.inj hauthor))

/-- **Do conditional writes honour the author condition?** A request asks for another author than
    the one of the row. One that fails its own checks changes nothing. Of the others, where somebody
    has the name, or the clause without the author excludes the row, the table stays as it is and
    the reply shows the row. But where nobody has the name and the rest of the clause admits the
    row, the request writes over it. -/
theorem author_condition (acc : Account.Database) (table : VarTable) (w : VarWrite)
    (hasked : w.isLastChangedAuthorId ≠ "") :
    (∀ r, w.job acc = .error r → (w.call acc table).2 = table) ∧
    ∀ u row authorName, w.job acc = .ok u → table.get? u.key = some row →
      acc.getUsername row.authorId = .ok authorName → w.isLastChangedAuthorId ≠ authorName →
      ((∃ userId, acc.getUserId w.isLastChangedAuthorId = .ok userId) ∨ u.clause none row = false →
        (w.call acc table).2 = table ∧
        ∀ v, row.varValue = .integer v → storable w.now = true → (w.call acc table).1 =
          .ok (.noError, some ⟨u.npid, true, row.timestamp, authorName, v, v⟩)) ∧
      (acc.getUserId w.isLastChangedAuthorId = .error .empty → u.clause none row = true →
        w.clientId ∈ acc.account.keys → storable w.now = true →
        (w.call acc table).2 = table.insert u.key ⟨u.updated row, w.now, w.clientId⟩) := by
  refine ⟨fun r hr => VarWrite.call_error hr table, ?_⟩
  intro u row authorName hjob hrow hauthor hother
  obtain ⟨hid, htime, hcompare, howner⟩ := VarWrite.job_eq_ok hjob
  rw [VarWrite.call_eq hjob, ← htime]
  refine ⟨fun hkeep => ?_, fun hnobody hrest hclient hnow => ?_⟩
  · have hcond : u.clause u.compareAuthor row = false := by
      rcases compareAuthorOf_cases hcompare hasked with ⟨userId, hname, hsome⟩ | ⟨hname, hnone⟩
      · rw [hsome, u.clause_author, decide_eq_false (getUserId_ne hname hauthor hother),
          Bool.and_false]
      · rw [hnone]
        refine hkeep.resolve_left fun h => ?_
        obtain ⟨userId, hsome⟩ := h
        rw [hname] at hsome
        cases hsome
    exact ⟨VarUpsert.call_refused hrow hcond,
      fun v hv hnow => VarUpsert.call_shown hnow hrow hcond hauthor hv⟩
  · have hnone : u.compareAuthor = none := by
      rcases compareAuthorOf_cases hcompare hasked with ⟨userId, hname, -⟩ | ⟨-, hnone⟩
      · rw [hname] at hnobody
        cases hnobody
      · exact hnone
    have hcond : u.clause u.compareAuthor row = true := by
      rw [hnone]
      exact hrest
    have hacc : hasAccounts acc u.key.owner u.clientId = true := by
      rw [hid]
      exact hasAccounts_of_own howner hclient
    rw [VarUpsert.call_written hnow hacc hrow hcond, VarUpsert.row, hid]

def twoAccounts : Account.Database :=
  ((oneAccount.insertAccount
    ⟨"eve", [], [], "eve", "", "eve", "eve", "", false, false, false⟩).map (·.2)).getD oneAccount

def adasTable : VarTable := (∅ : VarTable).insert addKey ⟨.integer 10, 1, 1⟩

def addIf (author : String) : VarWrite :=
  .addAndGet ⟨2, Vector.replicate 12 0, ⟨some ⟨true, "v"⟩, 0, 1, [], author⟩, 2⟩

def setIf (author : String) : VarWrite :=
  .tryAndSet ⟨2, Vector.replicate 12 0, ⟨some ⟨true, "v"⟩, 0, 1, 11, [], author, [10]⟩, 2⟩

def Leaves (w : VarWrite) (row : VarRow) (reply : TusVariable) : Prop :=
  (w.call twoAccounts adasTable).2 = adasTable.insert addKey row ∧
    (w.call twoAccounts adasTable).1 = .ok (.noError, some reply)

instance (w : VarWrite) (row : VarRow) (reply : TusVariable) : Decidable (Leaves w row reply) :=
  inferInstanceAs (Decidable (_ ∧ _))

theorem author_condition_known :
    Leaves (addIf "eve") ⟨.integer 10, 1, 1⟩ ⟨"v", true, 1, "ada", 10, 10⟩ ∧
      Leaves (setIf "eve") ⟨.integer 10, 1, 1⟩ ⟨"v", true, 1, "ada", 10, 10⟩ := by
  have hrow : adasTable.get? addKey = some ⟨.integer 10, 1, 1⟩ := by decide +kernel
  have hsame : adasTable = adasTable.insert addKey ⟨.integer 10, 1, 1⟩ := by decide +kernel
  have hauthor : twoAccounts.getUsername 1 = .ok "ada" := by decide +kernel
  have hknown : twoAccounts.getUserId "eve" = .ok 2 := by decide +kernel
  constructor
  · obtain ⟨htable, hreply⟩ := ((author_condition twoAccounts adasTable (addIf "eve") (by decide)).2
      _ _ _ rfl hrow hauthor (by decide)).1 (Or.inl ⟨2, hknown⟩)
    exact ⟨htable.trans hsame, hreply 10 rfl (by decide)⟩
  · obtain ⟨htable, hreply⟩ := ((author_condition twoAccounts adasTable (setIf "eve") (by decide)).2
      _ _ _ rfl hrow hauthor (by decide)).1 (Or.inl ⟨2, hknown⟩)
    exact ⟨htable.trans hsame, hreply 10 rfl (by decide)⟩

/-- **A name nobody has is no condition**: both requests write over `ada`'s row, where `TusSetData`
    stops at such a name with `CondFail`. -/
theorem unknown_author_ignored :
    compareAuthorId twoAccounts "bob" = .error (.ok .condFail) ∧
      Leaves (addIf "bob") ⟨.integer 11, 2, 2⟩ ⟨"v", true, 2, "eve", 11, 11⟩ ∧
      Leaves (setIf "bob") ⟨.integer 11, 2, 2⟩ ⟨"v", true, 2, "eve", 11, 11⟩ := by
  decide +kernel

end Rpcn.Tus
