/-
  File:      Rpcn/Lib/SqlWhere.lean
  Subject:   `WHERE` CLAUSES PUT TOGETHER AS TEXT: conjunctions of comparisons of number columns.

  A clause is a list of comparisons of a column with a literal or a parameter. It has a text, which
  is what a program builds, and a meaning on a row, which is what the database makes of the text.
  The two differ from the program's own comparisons in one point: the literal of a `u64` above the
  largest `i64` is a REAL, the nearest double. INTEGER and REAL are compared as numbers.
-/
import Rpcn.Lib.Double

namespace Rpcn.Lib.Sql

/-! ## 1. Comparisons -/

inductive CompareOp where
  | eq
  | ne
  | gt
  | ge
  | lt
  | le
  deriving DecidableEq, Repr

namespace CompareOp

def symbol : CompareOp → String
  | eq => "=="
  | ne => "!="
  | gt => ">"
  | ge => ">="
  | lt => "<"
  | le => "<="

def test : CompareOp → Int → Int → Bool
  | eq, x, y => x == y
  | ne, x, y => x != y
  | gt, x, y => x > y
  | ge, x, y => x ≥ y
  | lt, x, y => x < y
  | le, x, y => x ≤ y

end CompareOp

/-- What a column is compared with: the literal that an `i64` or a `u64` is printed as, or a
    parameter that is bound later. -/
inductive Operand where
  | i64 (n : Int)
  | u64 (n : UInt64)
  | param (index : Nat)
  deriving DecidableEq, Repr

namespace Operand

def text : Operand → String
  | i64 n => toString n
  | u64 n => toString n
  | param index => "?" ++ toString index

/-- **The number an operand is**: a literal that is no `i64` is read as a double. -/
def value (params : Nat → Int) : Operand → Int
  | i64 n => n
  | u64 n => if n.toNat < 2 ^ 63 then n.toNat else roundDouble n.toNat
  | param index => params index

theorem le_value_u64 {x : Int} (hx : x < 2 ^ 63) (params : Nat → Int) (n : UInt64) :
    x ≤ (u64 n).value params ↔ x ≤ n.toNat := by
  rw [value]
  split
  · exact Iff.rfl
  · rename_i h
    have hround : (2 ^ 63 : Nat) ≤ roundNat n.toNat := le_roundNat_of_pow_le (Nat.not_lt.mp h)
    rw [roundDouble_of_nonneg (Int.natCast_nonneg _), Int.natAbs_natCast]
    omega

end Operand

/-! ## 2. Clauses -/

structure Comparison (C : Type) where
  column : C
  op : CompareOp
  operand : Operand
  deriving DecidableEq, Repr

variable {C : Type}

def Comparison.text (name : C → String) (c : Comparison C) : String :=
  name c.column ++ " " ++ c.op.symbol ++ " " ++ c.operand.text

def Comparison.holds (params : Nat → Int) (row : C → Int) (c : Comparison C) : Bool :=
  c.op.test (row c.column) (c.operand.value params)

abbrev Where (C : Type) := List (Comparison C)

namespace Where

def text (name : C → String) (w : Where C) : String :=
  " AND ".intercalate (w.map (Comparison.text name))

/-- **The meaning of a clause** on a row. -/
def holds (params : Nat → Int) (row : C → Int) (w : Where C) : Bool :=
  w.all (Comparison.holds params row)

end Where

end Rpcn.Lib.Sql
