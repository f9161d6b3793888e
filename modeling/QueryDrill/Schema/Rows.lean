import QueryDrill.Failure
import QueryDrill.Keyed
import QueryDrill.Outline.Reference
/-!
How many rows insertions add to each table.

A list of values counts row by row. Any other query counts as one row, since nothing is executed.
-/

namespace QueryDrill

open Sql

/-- How many rows each table holds. -/
abbrev RowCounts := Keyed Nat

/-- How many rows a query is taken to yield. -/
def queryRows (q : Query) : Nat :=
  match q.body with
  | .values rows => rows.length
  | _ => 1

/-- How many rows an insertion is taken to add. The queries in its other clauses count as well. -/
def insertedRows (i : Insertion) : Nat :=
  (((i.visits false).filterMap Visit.query?).map queryRows).foldl (· + ·) 0

namespace RowCounts

/-- The counts after a statement, which must be an insertion. -/
def afterStatement (counts : RowCounts) : Statement → Except Failure RowCounts
  | .insert i => .ok (counts.add i.table.key (insertedRows i))
  | s => .error (.unreadable s.sql "expected an INSERT statement")

/-- The counts after the statements of a text. -/
def afterText (d : Dialect) (counts : RowCounts) (text : String) : Except Failure RowCounts := do
  (← readStatements d text).foldlM afterStatement counts

/-- The rows that texts of insertions add. -/
def ofTexts (d : Dialect) (texts : List String) : Except Failure RowCounts :=
  texts.foldlM (afterText d) .empty

end RowCounts

end QueryDrill
