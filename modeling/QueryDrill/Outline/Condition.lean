import QueryDrill.Keyed
import QueryDrill.Outline.Reference
import QueryDrill.Sql.Print
/-!
Conditions: a predicate taken apart at `AND` and `OR`.

A predicate falls into the operands of its outermost `AND`s. Within each of them the comparisons are
counted by the columns that they mention, so that a column which is compared twice in one operand can
be told from one that is compared in two of them.
-/

namespace QueryDrill

open Sql

/-! ## 1. Taking a predicate apart -/

/-- Whether an expression is a conjunction. -/
def isConjunction : Expr → Bool
  | .binary _ .and _ => true
  | _ => false

/-- The operands of the outermost `AND`s. Parentheses around a conjunction do not count. -/
def conjuncts : Expr → List Expr
  | .binary l .and r => conjuncts l ++ conjuncts r
  | .nested e => if isConjunction e then conjuncts e else [.nested e]
  | e => [e]

/-- The comparisons of a predicate: what `AND`, `OR`, `NOT` and parentheses join. -/
def comparisons : Expr → List Expr
  | .binary l .and r => comparisons l ++ comparisons r
  | .binary l .or r => comparisons l ++ comparisons r
  | .nested e => comparisons e
  | .unary .not e => comparisons e
  | e => [e]

/-- Whether an `OR` joins comparisons of a predicate. -/
def joinsByOr : Expr → Bool
  | .binary l .and r => joinsByOr l || joinsByOr r
  | .binary _ .or _ => true
  | .nested e => joinsByOr e
  | .unary .not e => joinsByOr e
  | _ => false

/-- Whether an expression is an `AND` or an `OR`. -/
def isConnective : Expr → Bool
  | .binary _ .and _ => true
  | .binary _ .or _ => true
  | _ => false

/-- How many `AND`s and `OR`s a predicate has outside nested queries. -/
def connectiveCount (e : Expr) : Nat := e.parts.countP isConnective

/-! ## 2. Conditions -/

/-- The key of a column under what its qualifier stands for. -/
def columnKey (owner : Option String) (column : String) : String :=
  match owner with
  | some t => t ++ "." ++ column
  | none => column

/-- The columns that a comparison mentions, each once. -/
def comparedColumns (owner : Option String → Option String) (e : Expr) : List String :=
  sortedSet (e.columnRefs.map fun (qualifier, column) => columnKey (owner qualifier) column)

/-- One operand of the outermost `AND`s of a predicate. -/
structure Condition where
  text : String
  /-- How many comparisons mention each column. -/
  counts : Keyed Nat
  hasOr : Bool

namespace Condition

/-- The condition that an expression states. -/
def ofExpr (owner : Option String → Option String) (e : Expr) : Condition where
  text := e.sql
  counts := ((comparisons e).flatMap (comparedColumns owner)).foldl (fun m k => m.add k 1) .empty
  hasOr := joinsByOr e

/-- The columns that are compared at least twice. -/
def repeatedColumns (c : Condition) : List String :=
  (c.counts.entries.filter fun (_, n) => 2 ≤ n).map Prod.fst

end Condition

/-- A predicate as its conditions. -/
structure Predicate where
  conditions : List Condition
  /-- How many `AND`s and `OR`s there are. -/
  connectives : Nat

namespace Predicate

/-- The predicate that says nothing. -/
def none : Predicate := ⟨[], 0⟩

/-- A predicate taken apart. `owner` tells what a qualifier stands for. -/
def ofExpr (owner : Option String → Option String) (e : Expr) : Predicate :=
  ⟨(conjuncts e).map (Condition.ofExpr owner), connectiveCount e⟩

/-- An optional predicate taken apart. -/
def ofOption (owner : Option String → Option String) : Option Expr → Predicate
  | .some e => ofExpr owner e
  | .none => none

/-- Whether there is no predicate. -/
def isEmpty (p : Predicate) : Bool := p.conditions.isEmpty

/-- How many conditions there are in all: one more than connectives, or none. -/
def total (p : Predicate) : Nat := if p.isEmpty then 0 else p.connectives + 1

/-- The columns that are compared more than once in one condition. -/
def repeatedColumns (p : Predicate) : List String :=
  sortedSet (p.conditions.flatMap Condition.repeatedColumns)

end Predicate

end QueryDrill
