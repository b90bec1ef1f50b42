import Std.Data.TreeMap
import MiniC.Parser.Outcome

/-!
# Remembered expressions

Alternatives try the same expressions again and again from the same start.
Results are remembered for three strata of expressions, together with the
deepest failure that was noted on the way, which has to be noted again whenever
the result is used.
-/

namespace MiniC.Parser

/-- The strata of expressions whose results are remembered. -/
inductive Stratum where
  | assignment
  | cast
  | unary
  deriving DecidableEq, Repr

/-- A remembered result with the deepest failure noted on the way to it. -/
structure Memo.Entry where
  outcome : Outcome Expr
  superseded : Option Diagnostic

/-- Remembered results by stratum and start index. -/
structure Memo where
  assignments : Std.TreeMap Nat Memo.Entry := ∅
  casts : Std.TreeMap Nat Memo.Entry := ∅
  unaries : Std.TreeMap Nat Memo.Entry := ∅

namespace Memo

/-- Nothing remembered. -/
def empty : Memo := {}

/-- The results of one stratum. -/
def table (memo : Memo) : Stratum → Std.TreeMap Nat Entry
  | .assignment => memo.assignments
  | .cast => memo.casts
  | .unary => memo.unaries

/-- The remembered result of a stratum at a start index. -/
def find? (memo : Memo) (stratum : Stratum) (start : Nat) : Option Entry :=
  (memo.table stratum)[start]?

/-- Remember a result. -/
def insert (memo : Memo) (stratum : Stratum) (start : Nat) (entry : Entry) : Memo :=
  match stratum with
  | .assignment => { memo with assignments := memo.assignments.insert start entry }
  | .cast => { memo with casts := memo.casts.insert start entry }
  | .unary => { memo with unaries := memo.unaries.insert start entry }

@[simp]
theorem find?_empty (stratum : Stratum) (start : Nat) : empty.find? stratum start = none := by
  cases stratum <;> simp [find?, table, empty]

/-- What was remembered is found again, and nothing else changes. -/
theorem find?_insert (memo : Memo) (stratum other : Stratum) (start place : Nat)
    (entry : Entry) :
    (memo.insert stratum start entry).find? other place =
      if stratum = other ∧ start = place then some entry else memo.find? other place := by
  cases stratum <;> cases other <;>
    simp [find?, table, insert, Std.TreeMap.getElem?_insert]

end Memo

end MiniC.Parser
