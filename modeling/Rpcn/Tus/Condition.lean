/-
  File:      Rpcn/Tus/Condition.lean
  Subject:   THE CONDITION OF A TUS WRITE: one rule, written in Rust and as the text of an upsert.

  `TusSetData` tests its condition twice: in `preliminary_set_tus_data_check`, on the row it selects,
  before it makes a file; and in the upsert, by the `WHERE` that `prepare_cond_string` puts
  together. The first refuses what is too new, the second takes what is old enough.
-/
import Rpcn.Lib.SqlWhere
import Rpcn.Tus.Server

namespace Rpcn.Tus

open Lib
open Database (storable)

/-! ## 1. The clause -/

inductive Column where
  | varValue
  | timestamp
  | authorId
  deriving DecidableEq, Repr

def Column.name : Column → String
  | varValue => "var_value"
  | timestamp => "timestamp"
  | authorId => "author_id"

/-- The comparisons of the optional parts: not newer than a date, and by an author. -/
def prepareCond (compareTimestamp : Option UInt64) (compareAuthor : Option UserId) :
    Sql.Where Column :=
  (compareTimestamp.map fun t => ⟨.timestamp, .le, .u64 t⟩).toList ++
    (compareAuthor.map fun a => ⟨.authorId, .eq, .i64 a⟩).toList

def prepareCondString (compareTimestamp : Option UInt64) (compareAuthor : Option UserId) : String :=
  let condString :=
    match compareTimestamp with
    | some t => "WHERE timestamp <= " ++ toString t
    | none => ""
  match compareAuthor with
  | some a => condString ++ (if condString = "" then "WHERE" else " AND") ++ " author_id == " ++
      toString a
  | none => condString

theorem where_timestamp_ne_empty (t : UInt64) : "WHERE timestamp <= " ++ toString t ≠ "" := by
  intro h
  have hlen := congrArg String.length h
  rw [String.length_append, show "WHERE timestamp <= ".length = 19 from rfl] at hlen
  exact absurd hlen (Nat.ne_of_gt (Nat.lt_of_lt_of_le (by decide) (Nat.le_add_right 19 _)))

theorem prepareCondString_eq (compareTimestamp : Option UInt64) (compareAuthor : Option UserId) :
    prepareCondString compareTimestamp compareAuthor =
      if prepareCond compareTimestamp compareAuthor = [] then ""
      else "WHERE " ++ (prepareCond compareTimestamp compareAuthor).text Column.name := by
  have hwhere : "WHERE timestamp <= " = "WHERE " ++ ("timestamp" ++ " " ++ "<=" ++ " ") := by
    decide
  have hauthor : "WHERE" ++ " author_id == " = "WHERE " ++ ("author_id" ++ " " ++ "==" ++ " ") := by
    decide
  have hand : " AND" ++ " author_id == " = " AND " ++ ("author_id" ++ " " ++ "==" ++ " ") := by
    decide
  cases compareTimestamp with
  | none =>
    cases compareAuthor with
    | none => rfl
    | some a =>
      show "" ++ "WHERE" ++ " author_id == " ++ toString a =
        "WHERE " ++ ("author_id" ++ " " ++ "==" ++ " " ++ toString a)
      rw [String.empty_append, hauthor]
      simp only [String.append_assoc]
  | some t =>
    cases compareAuthor with
    | none =>
      show "WHERE timestamp <= " ++ toString t =
        "WHERE " ++ ("timestamp" ++ " " ++ "<=" ++ " " ++ toString t)
      rw [hwhere]
      simp only [String.append_assoc]
    | some a =>
      have hcode : prepareCondString (some t) (some a) =
          "WHERE timestamp <= " ++ toString t ++ (" AND" ++ " author_id == ") ++ toString a := by
        unfold prepareCondString
        dsimp only
        rw [if_neg (where_timestamp_ne_empty t)]
        simp only [String.append_assoc]
      have htext : (prepareCond (some t) (some a)).text Column.name =
          "timestamp" ++ " " ++ "<=" ++ " " ++ toString t ++ " AND " ++
            ("author_id" ++ " " ++ "==" ++ " " ++ toString a) := rfl
      have hne : prepareCond (some t) (some a) ≠ [] := List.cons_ne_nil _ _
      rw [hcode, if_neg hne, htext, hand, hwhere]
      simp only [String.append_assoc]

def DataRow.column (row : DataRow) : Column → Int
  | .varValue => 0
  | .timestamp => row.timestamp.toNat
  | .authorId => row.authorId

theorem condHolds_eq {timestamp : UInt64} (ht : storable timestamp = true) (authorId : UserId)
    {row : Column → Int} (hrow : row .timestamp = timestamp.toNat) (hauthor : row .authorId = authorId)
    (compareTimestamp : Option UInt64) (compareAuthor : Option UserId) (params : Nat → Int) :
    (prepareCond compareTimestamp compareAuthor).holds params row =
      condHolds compareTimestamp compareAuthor timestamp authorId := by
  have hlt : (timestamp.toNat : Int) < 2 ^ 63 := by
    have := of_decide_eq_true ht
    omega
  rw [prepareCond, Sql.Where.holds, List.all_append, condHolds]
  congr 1
  · cases compareTimestamp with
    | none => rfl
    | some t =>
      rw [Option.map_some, Option.toList_some, List.all_cons, List.all_nil, Bool.and_true]
      show decide (row .timestamp ≤ _) = decide (timestamp ≤ t)
      rw [hrow, decide_eq_decide, Sql.Operand.le_value_u64 hlt, UInt64.le_iff_toNat_le,
        Int.ofNat_le]
  · cases compareAuthor with
    | none => rfl
    | some a =>
      rw [Option.map_some, Option.toList_some, List.all_cons, List.all_nil, Bool.and_true]
      show (row .authorId == a) = decide (authorId = a)
      rw [hauthor]
      rfl

/-! ## 2. The check -/

theorem check_none_iff (row : Option DataRow) (compareTimestamp : Option UInt64)
    (compareAuthorId : Option UserId) :
    preliminarySetTusDataCheck row compareTimestamp compareAuthorId = none ↔
      row.all fun old =>
        condHolds compareTimestamp compareAuthorId old.timestamp old.authorId := by
  unfold preliminarySetTusDataCheck
  cases row with
  | none =>
    simp only [ite_self, Option.all_none]
  | some old =>
    rw [Option.all_some, condHolds, Bool.and_eq_true]
    cases compareTimestamp with
    | none =>
      cases compareAuthorId with
      | none => exact ⟨fun _ => ⟨rfl, rfl⟩, fun _ => rfl⟩
      | some a => simp [@eq_comm _ a old.authorId]
    | some t =>
      cases compareAuthorId with
      | none => simp
      | some a =>
        by_cases hnew : t < old.timestamp
        · simp [hnew, UInt64.not_le.mpr hnew]
        · simp [hnew, UInt64.not_lt.mp hnew, @eq_comm _ a old.authorId]

theorem check_some {row : Option DataRow} {compareTimestamp : Option UInt64}
    {compareAuthorId : Option UserId} {r : Reply}
    (h : preliminarySetTusDataCheck row compareTimestamp compareAuthorId = some r) :
    r = .ok .condFail := by
  unfold preliminarySetTusDataCheck at h
  split at h
  · split at h
    · cases h
    · split at h
      · cases h
        rfl
      · split at h
        · cases h
          rfl
        · cases h
  · cases h

/-! ## 3. The upsert -/

variable (acc : Account.Database)

theorem setData_eq (s : Store) (key : SlotKey) (row : DataRow) (compareTimestamp : Option UInt64)
    (compareAuthor : Option UserId) :
    s.setData acc key row compareTimestamp compareAuthor =
      if !(storable row.dataId && storable row.timestamp) then .error .internal
      else if !(s.tusData.get? key).all fun old =>
          condHolds compareTimestamp compareAuthor old.timestamp old.authorId then .error .empty
      else if hasAccounts acc key.owner row.authorId then
        .ok { s with tusData := s.tusData.insert key row }
      else .error .internal := by
  unfold Store.setData
  cases s.tusData.get? key <;> rfl

theorem setData_ne_empty {s : Store} {key : SlotKey} (row : DataRow)
    {compareTimestamp : Option UInt64} {compareAuthor : Option UserId}
    (h : preliminarySetTusDataCheck (s.tusData.get? key) compareTimestamp compareAuthor = none) :
    s.setData acc key row compareTimestamp compareAuthor ≠ .error .empty := by
  rw [setData_eq, (check_none_iff _ _ _).mp h]
  intro hs
  split at hs
  · cases hs
  · split at hs
    · rename_i hno
      cases hno
    · split at hs <;> cases hs

theorem SetJob.step_store {acc : Account.Database} {job : SetJob} {c : Store.Creation}
    {s₀ s s' : Store} {dataId : UInt64} {place : SetPlace}
    (hsame : s.tusData.get? job.key = s₀.tusData.get? job.key)
    (hcheck : job.step acc c s₀ .check = some (s₀, .create))
    (hstore : job.step acc c s (.store dataId) = some (s', place)) :
    place = .replied (.ok .noError) ∨ place = .replied (.error .dbFail) := by
  have hpass : preliminarySetTusDataCheck (s.tusData.get? job.key) job.compareTimestamp
      job.compareAuthorId = none := by
    rw [hsame]
    unfold SetJob.step at hcheck
    cases hres : preliminarySetTusDataCheck (s₀.tusData.get? job.key) job.compareTimestamp
        job.compareAuthorId with
    | none => rfl
    | some r =>
      rw [hres] at hcheck
      cases hcheck
  have hne := setData_ne_empty acc (job.row dataId) hpass
  unfold SetJob.step at hstore
  cases hres : s.setData acc job.key (job.row dataId) job.compareTimestamp job.compareAuthorId with
  | ok s₁ =>
    simp only [hres] at hstore
    cases hstore
    exact Or.inl rfl
  | error e =>
    rw [hres] at hne
    cases e with
    | empty => exact absurd rfl hne
    | _ =>
      simp only [hres] at hstore
      cases hstore
      exact Or.inr rfl

/-- **The preliminary check and the upsert agree.** `s₀` is the store that the check looks at, `s`
    the one of the upsert, with the same row in the slot. The clause of the upsert is the one that
    `prepare_cond_string` writes, and it means the test of the model. The upsert stores the row
    exactly if the check passed and the database can hold the row at all: its numbers fit, and who
    it names has an account. After a check that passed it does not answer that no row was changed;
    so the request, in whatever state its file was made, is not answered `CondFail` then. And what
    the check refused, with `CondFail`, would not have been stored. -/
theorem preliminary_check_exact (acc : Account.Database) {s₀ s : Store} {key : SlotKey}
    (hsame : s.tusData.get? key = s₀.tusData.get? key)
    (hheld : ∀ old, s₀.tusData.get? key = some old → storable old.timestamp = true) (row : DataRow)
    (compareTimestamp : Option UInt64) (compareAuthor : Option UserId) :
    prepareCondString compareTimestamp compareAuthor =
        (if prepareCond compareTimestamp compareAuthor = [] then ""
          else "WHERE " ++ (prepareCond compareTimestamp compareAuthor).text Column.name) ∧
      (∀ old, s₀.tusData.get? key = some old → ∀ params,
        condHolds compareTimestamp compareAuthor old.timestamp old.authorId =
          (prepareCond compareTimestamp compareAuthor).holds params old.column) ∧
      ((∃ s', s.setData acc key row compareTimestamp compareAuthor = .ok s') ↔
        preliminarySetTusDataCheck (s₀.tusData.get? key) compareTimestamp compareAuthor = none ∧
          storable row.dataId = true ∧ storable row.timestamp = true ∧
          hasAccounts acc key.owner row.authorId = true) ∧
      (preliminarySetTusDataCheck (s₀.tusData.get? key) compareTimestamp compareAuthor = none →
        s.setData acc key row compareTimestamp compareAuthor ≠ .error .empty) ∧
      (∀ (job : SetJob) c s' dataId place, job.key = key →
        job.step acc c s₀ .check = some (s₀, .create) →
        job.step acc c s (.store dataId) = some (s', place) →
        place = .replied (.ok .noError) ∨ place = .replied (.error .dbFail)) ∧
      ∀ r, preliminarySetTusDataCheck (s₀.tusData.get? key) compareTimestamp compareAuthor = some r →
        r = .ok .condFail ∧ ∀ s', s.setData acc key row compareTimestamp compareAuthor ≠ .ok s' := by
  have hiff := check_none_iff (s₀.tusData.get? key) compareTimestamp compareAuthor
  rw [← hsame] at hiff ⊢
  have hstores : (∃ s', s.setData acc key row compareTimestamp compareAuthor = .ok s') ↔
      preliminarySetTusDataCheck (s.tusData.get? key) compareTimestamp compareAuthor = none ∧
        storable row.dataId = true ∧ storable row.timestamp = true ∧
        hasAccounts acc key.owner row.authorId = true := by
    rw [setData_eq, hiff]
    constructor
    · intro h
      obtain ⟨s', h⟩ := h
      split at h
      · cases h
      · rename_i hst
        split at h
        · cases h
        · rename_i hall
          split at h
          · rename_i hacc
            rw [Bool.not_eq_true, Bool.not_eq_false', Bool.and_eq_true] at hst
            rw [Bool.not_eq_true, Bool.not_eq_false'] at hall
            exact ⟨hall, hst.1, hst.2, hacc⟩
          · cases h
    · intro h
      obtain ⟨hall, hid, htime, hacc⟩ := h
      rw [hid, htime, hall, hacc]
      exact ⟨_, rfl⟩
  refine ⟨prepareCondString_eq .., fun old hold params => ?_, hstores, setData_ne_empty acc row,
    fun job c s' dataId place hkey => ?_, fun r hr => ⟨check_some hr, fun s' hs' => ?_⟩⟩
  · rw [condHolds_eq (hheld old (hsame ▸ hold)) old.authorId rfl rfl]
  · subst hkey
    exact SetJob.step_store hsame
  · have := (hstores.mp ⟨s', hs'⟩).1
    rw [hr] at this
    cases this

def ownSlot : SlotKey := ⟨.user 1, Vector.replicate 12 0, 0⟩

def withRow : Store := { Store.start with
  tusData := Store.start.tusData.insert ownSlot ⟨1, [], 5, 1⟩ }

theorem preliminary_check_exact_largest :
    ∃ s', withRow.setData oneAccount ownSlot ⟨2, [], 6, 1⟩ (some 0xFFFFFFFFFFFFFFFF) (some 1) =
      .ok s' := by
  have hheld : ∀ old, withRow.tusData.get? ownSlot = some old → storable old.timestamp = true := by
    intro old h
    rw [withRow, HashMap.get?_insert, if_pos rfl] at h
    cases h
    rfl
  refine (preliminary_check_exact oneAccount rfl hheld _ _ _).2.2.1.mpr ⟨?_, rfl, rfl, ?_⟩
  · decide +kernel
  · decide +kernel

end Rpcn.Tus
