import QueryDrill.Text.Case
import QueryDrill.Sql.Walk
/-!
What names in a statement refer to.

Names are compared in lower case, and of a name in parts the last one counts.
-/

namespace QueryDrill.Sql

open Text

/-- The last part of a name, in lower case. -/
def Name.key (n : Name) : String :=
  match n.getLast? with
  | some i => lower i.value
  | none => ""

/-- The column that an expression names, if it does no more than that. -/
def Expr.column? : Expr → Option String
  | .column parts => parts.getLast?.map fun i => lower i.value
  | _ => none

/-- What stands before the name of a column. -/
def Expr.qualifier? : Expr → Option String
  | .column parts => (parts.dropLast.getLast?).map fun i => lower i.value
  | _ => none

/-- The columns that an expression refers to outside nested queries, each with its qualifier. -/
def Expr.columnRefs (e : Expr) : List (Option String × String) :=
  e.parts.filterMap fun p => p.column?.map fun c => (p.qualifier?, c)

end QueryDrill.Sql
