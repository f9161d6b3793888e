import QueryDrill.Outline.Condition
/-!
Select blocks: one `SELECT` with its place in the query.

A block knows what it reads, how its sources are joined and what its columns are called. Nothing that a
block tells depends on the queries inside it.
-/

namespace QueryDrill

open Sql Text

/-! ## 1. Sources -/

/-- How two sources are joined. -/
inductive JoinKind where
  | inner
  | left
  | right
  | full
  | cross
  /-- By a comma. -/
  | implicit
  /-- By a semi-join, an anti-join or `APPLY`. -/
  | other
  deriving DecidableEq, Repr, Inhabited

namespace JoinKind

/-- All kinds, in order. -/
def all : List JoinKind := [inner, left, right, full, cross, implicit, other]

/-- The word a kind is known by. -/
def name : JoinKind → String
  | inner => "inner"
  | left => "left"
  | right => "right"
  | full => "full"
  | cross => "cross"
  | implicit => "implicit"
  | other => "other"

/-- A kind as messages show it. -/
def title : JoinKind → String
  | inner => "INNER JOIN"
  | left => "LEFT JOIN"
  | right => "RIGHT JOIN"
  | full => "FULL JOIN"
  | cross => "CROSS JOIN"
  | implicit => "implicit join"
  | other => "other join"

/-- The kind of a join operator. -/
def ofOperator : JoinOperator → JoinKind
  | .inner => inner
  | .leftOuter => left
  | .rightOuter => right
  | .fullOuter => full
  | .cross => cross
  | _ => other

end JoinKind

/-- A table that a block reads. -/
structure TableRef where
  /-- The name of the table, in lower case. -/
  name : String
  /-- The name that the block gives it, in lower case. -/
  label : Option String
  deriving DecidableEq, Repr, Inhabited

/-- Whether a qualifier in lower case refers to a table. -/
def TableRef.isCalled (t : TableRef) (qualifier : String) : Bool :=
  t.label == some qualifier || t.name == qualifier

mutual

/-- The tables that a source reads by name. -/
def sourceTables : TableFactor → List TableRef
  | .table name _ _ label _ => [⟨name.key, label.map fun a => lower a.name.value⟩]
  | .joined item _ => itemTables item
  | .derived .. => []
  | .computed .. => []
  | .turned .. => []

/-- The tables that an entry of `FROM` reads by name. -/
def itemTables : FromItem → List TableRef
  | ⟨relation, joins⟩ => sourceTables relation ++ joinedTables joins

/-- The tables that a chain of joins reads by name. -/
def joinedTables : List Join → List TableRef
  | [] => []
  | ⟨relation, _, _⟩ :: js => sourceTables relation ++ joinedTables js

end

mutual

/-- The joins inside a source. -/
def sourceJoins : TableFactor → List JoinKind
  | .joined item _ => itemJoins item
  | .table .. => []
  | .derived .. => []
  | .computed .. => []
  | .turned .. => []

/-- The joins of an entry of `FROM`. -/
def itemJoins : FromItem → List JoinKind
  | ⟨relation, joins⟩ => sourceJoins relation ++ chainJoins joins

/-- The joins of a chain, each before those inside its source. -/
def chainJoins : List Join → List JoinKind
  | [] => []
  | ⟨relation, operator, _⟩ :: js => .ofOperator operator :: (sourceJoins relation ++ chainJoins js)

end

/-- The joins of a `FROM` list. A comma is a join too. -/
def listJoins : List FromItem → List JoinKind
  | [] => []
  | [i] => itemJoins i
  | i :: is => itemJoins i ++ .implicit :: listJoins is

/-! ## 2. Output columns -/

/-- A column of a result. -/
structure OutputColumn where
  /-- The name that the result shows. -/
  name : String
  /-- The name given by `AS`. -/
  label : Option String
  /-- The column that is shown, if it is a mere column. -/
  realName : Option String
  /-- The table of that column. -/
  table : Option String
  isWildcard : Bool
  deriving DecidableEq, Repr, Inhabited

/-- Whether a column is shown under another name than its own. -/
def OutputColumn.isAliased (c : OutputColumn) : Bool :=
  match c.label, c.realName with
  | some a, some r => lower a != r
  | some _, none => true
  | none, _ => false

/-- The table that a qualifier refers to. Without a qualifier it is the only table there is. -/
def ownerOf (tables : List TableRef) : Option String → Option String
  | some q =>
    match tables.find? (·.isCalled q) with
    | some t => some t.name
    | none => some q
  | none =>
    match tables with
    | [t] => some t.name
    | _ => none

/-- The column that an entry of the `SELECT` list shows. -/
def outputColumn (tables : List TableRef) : SelectItem → OutputColumn
  | .expr e label =>
    let realName := e.column?
    { name := match label with
        | some a => a.value
        | none => realName.getD e.sql
      label := label.map (·.value)
      realName
      table := if realName.isSome then ownerOf tables e.qualifier? else none
      isWildcard := false }
  | .wildcard [] _ => ⟨"*", none, none, none, true⟩
  | .wildcard name _ => ⟨nameSql name ++ ".*", none, none, ownerOf tables (some name.key), true⟩

/-! ## 3. Blocks -/

/-- A `SELECT` with its place in the query. -/
structure Block where
  select : Select
  /-- The sort keys of the query that this block opens. -/
  orderBy : List Expr
  /-- One for the main query, more inside other blocks. -/
  depth : Nat
  /-- The number of the block around this one. -/
  parent : Option Nat

namespace Block

/-- The tables that a block reads by name. -/
def tables (b : Block) : List TableRef := b.select.sources.flatMap itemTables

/-- The joins between the sources of a block. -/
def joins (b : Block) : List JoinKind := listJoins b.select.sources

/-- The columns of the result. -/
def outputColumns (b : Block) : List OutputColumn := b.select.projection.map (outputColumn b.tables)

/-- Whether a block removes duplicate rows. -/
def isDistinct (b : Block) : Bool := b.select.distinct.isSome

/-- Whether a block groups its rows. -/
def hasGroupBy (b : Block) : Bool := b.select.groupsAll || !b.select.groupBy.isEmpty

/-- The table that a qualifier refers to. -/
def resolveTable (b : Block) (qualifier : String) : Option TableRef :=
  b.tables.find? (·.isCalled (lower qualifier))

/-- What a qualifier stands for in the conditions of a block. With at most one table, columns are
known by their names alone. -/
def conditionOwner (b : Block) (qualifier : Option String) : Option String :=
  if b.tables.length ≤ 1 then none
  else qualifier.map fun q =>
    match b.resolveTable q with
    | some t => t.name
    | none => q

/-- The predicate of `WHERE`, its columns told by their tables. -/
def wherePredicate (b : Block) : Predicate := .ofOption b.conditionOwner b.select.selection

/-- The predicate of `WHERE`, its columns told by their qualifiers as written. -/
def rawWherePredicate (b : Block) : Predicate := .ofOption id b.select.selection

/-- The predicate of `HAVING`. -/
def havingPredicate (b : Block) : Predicate := .ofOption id b.select.having

/-- The names of aggregate functions. -/
def aggregateNames : List String :=
  ["count", "sum", "avg", "min", "max", "group_concat", "string_agg", "array_agg"]

/-- The aggregate function that an expression calls. -/
def aggregate? : Expr → Option String
  | .call name .. =>
    if name.isEmpty then none
    else if aggregateNames.contains name.key then some name.key else none
  | _ => none

/-- The aggregate functions that a block calls in its columns, in `HAVING` and in its sort keys. -/
def aggregateCalls (b : Block) : List String :=
  ((visitsItems false b.select.projection ++ visitsOption false b.select.having
    ++ visitsAll false b.orderBy).filterMap Visit.expr?).filterMap aggregate?

/-- Whether an expression tests for null. -/
def isNullTest : Expr → Bool
  | .nullTest .. => true
  | _ => false

/-- How many null tests there are in `WHERE` and `HAVING`. -/
def nullChecks (b : Block) : Nat :=
  ((visitsOption false b.select.selection ++ visitsOption false b.select.having).filterMap
    Visit.expr?).countP isNullTest

end Block

end QueryDrill
