import QueryDrill.Constraint.Basic
import QueryDrill.Outline.Basic
import QueryDrill.Schema.Catalog
/-!
Constraints on a query.
-/

namespace QueryDrill

open Sql Text

/-- A constraint on a query. -/
inductive QueryConstraint where
  /-- Distinct tables anywhere. -/
  | tables (bounds : Bounds)
  /-- Joins in the main blocks; if kinds are given, only those. -/
  | joins (bounds : Bounds) (kinds : List JoinKind)
  /-- Conditions of `WHERE` in the main blocks. -/
  | conditions (bounds : Bounds)
  /-- Columns that are compared more than once in one condition. -/
  | repeatedColumnConditions (min : Nat)
  /-- Aggregate functions in the main blocks; if names are given, only those count. -/
  | aggregations (bounds : Bounds) (functions : List String)
  | groupBy (state : Presence) (minColumns : Nat)
  | having (state : Presence) (minConditions : Nat)
  | orderBy (state : Presence) (minColumns : Nat)
  | distinct (state : Presence)
  | subqueries (bounds : Bounds) (nesting : Nesting)
  | duplicates (mode : DuplicateMode)
  /-- Columns that are shown under another name. -/
  | columnAliases (min : Nat)
  /-- Columns of the result, wildcards spelled out. -/
  | selectedColumns (bounds : Bounds)
  /-- The length of patterns without `%`. -/
  | wildcardLength (bounds : Bounds)
  /-- Characters that some pattern must contain, each as often as given. -/
  | wildcardCharacters (required : String)
  /-- `UNION ALL` between different tables, plain `UNION` on the same tables. -/
  | unionBalance
  | setOperations (min : Nat) (kinds : List SetOperator)
  /-- Whether only foreign key columns are selected. -/
  | foreignKeyProjection (state : Presence)
  | nullChecks (state : Presence)
  deriving DecidableEq, Repr, Inhabited

namespace QueryConstraint

/-! ## 1. Words -/

/-- The word a constraint is known by. -/
def name : QueryConstraint → String
  | tables .. => "tables"
  | joins .. => "joins"
  | conditions .. => "conditions"
  | repeatedColumnConditions .. => "repeated_column_conditions"
  | aggregations .. => "aggregations"
  | groupBy .. => "group_by"
  | having .. => "having"
  | orderBy .. => "order_by"
  | distinct .. => "distinct"
  | subqueries .. => "subqueries"
  | duplicates .. => "duplicates"
  | columnAliases .. => "column_aliases"
  | selectedColumns .. => "selected_columns"
  | wildcardLength .. => "wildcard_length"
  | wildcardCharacters .. => "wildcard_characters"
  | unionBalance => "union_balance"
  | setOperations .. => "set_operations"
  | foreignKeyProjection .. => "foreign_key_projection"
  | nullChecks .. => "null_checks"

/-- The requirement that a clause is there or absent, with its least size. -/
def clauseText (l : Language) (state : Presence) (clause : String) (min : Nat) (unit : String) : String :=
  l.pick "The main query" "La query principale" ++ " " ++ state.verb l ++ " " ++ l.pick "use" "usare" ++ " "
    ++ clause
    ++ if state = .present && min > 0 then
        " " ++ l.pick "with" "con" ++ " " ++ (Bounds.atLeast min).phrase l ++ " " ++ unit
      else ""

/-- The requirement in words. -/
def description (l : Language) : QueryConstraint → String
  | tables b =>
    l.pick "The query must reference" "La query deve usare" ++ " " ++ b.phrase l ++ " "
      ++ l.pick "distinct tables" "tabelle distinte"
  | joins b kinds =>
    l.pick "The main query must contain" "La query principale deve contenere" ++ " " ++ b.phrase l ++ " "
      ++ l.pick "joins" "join"
      ++ if kinds.isEmpty then ""
        else " " ++ l.pick "using only" "usando solo" ++ " " ++ ", ".intercalate (kinds.map JoinKind.title)
  | conditions b =>
    l.pick "The WHERE clause of the main query must contain"
        "La clausola WHERE della query principale deve contenere"
      ++ " " ++ b.phrase l ++ " "
      ++ l.pick "conditions combined with AND/OR" "condizioni combinate con AND/OR"
  | repeatedColumnConditions min =>
    l.pick "In the WHERE clause," "Nella clausola WHERE," ++ " " ++ (Bounds.atLeast min).phrase l ++ " "
      ++ l.pick
        ("columns must be compared more than once within the same group of OR-ed conditions "
          ++ "(e.g. city = 'A' OR city = 'B')")
        ("colonne devono essere confrontate più volte nello stesso gruppo di condizioni in OR "
          ++ "(es. city = 'A' OR city = 'B')")
  | aggregations b functions =>
    l.pick "The main query must use" "La query principale deve usare" ++ " " ++ b.phrase l ++ " "
      ++ l.pick "aggregate functions" "funzioni di aggregazione"
      ++ if functions.isEmpty then "" else " (" ++ ", ".intercalate (functions.map upper) ++ ")"
  | groupBy state min =>
    clauseText l state "GROUP BY" min (l.pick "grouping columns" "colonne di raggruppamento")
  | having state min => clauseText l state "HAVING" min (l.pick "conditions" "condizioni")
  | orderBy state min =>
    clauseText l state "ORDER BY" min (l.pick "sort columns" "colonne di ordinamento")
  | distinct state =>
    l.pick "The main query" "La query principale" ++ " " ++ state.verb l ++ " "
      ++ l.pick "use DISTINCT" "usare DISTINCT"
  | subqueries b nesting =>
    l.pick "The query must contain" "La query deve contenere" ++ " " ++ b.phrase l ++ " "
      ++ l.pick "subqueries" "sottoquery"
      ++ match nesting with
        | .any => ""
        | .flat =>
          l.pick ", none of them nested inside another subquery"
            ", nessuna annidata dentro un'altra sottoquery"
        | .nested =>
          l.pick ", with at least one subquery nested inside another"
            ", con almeno una sottoquery annidata dentro un'altra"
  | duplicates .allowed =>
    l.pick
      ("The result may contain duplicate rows: do not select a full key and do not use DISTINCT "
        ++ "or GROUP BY")
      ("Il risultato può contenere righe duplicate: non selezionare una chiave completa e non usare "
        ++ "DISTINCT o GROUP BY")
  | duplicates .unique =>
    l.pick "The result must not contain duplicate rows" "Il risultato non deve contenere righe duplicate"
  | duplicates .distinctRequired =>
    l.pick "The query must need DISTINCT: without it the result would contain duplicate rows"
      ("La query deve richiedere DISTINCT: senza di esso il risultato conterrebbe righe duplicate")
  | columnAliases min =>
    l.pick "Rename" "Rinomina" ++ " " ++ (Bounds.atLeast min).phrase l ++ " "
      ++ l.pick "selected columns with an alias (AS)" "colonne selezionate con un alias (AS)"
  | selectedColumns b =>
    l.pick "The main query must select" "La query principale deve selezionare" ++ " " ++ b.phrase l ++ " "
      ++ l.pick "columns" "colonne"
  | wildcardLength b =>
    l.pick "Use LIKE patterns, each with" "Usa pattern LIKE, ognuno con" ++ " " ++ b.phrase l ++ " "
      ++ l.pick "characters besides '%'" "caratteri oltre a '%'"
  | wildcardCharacters required =>
    l.pick "A LIKE pattern must contain the characters" "Un pattern LIKE deve contenere i caratteri"
      ++ " '" ++ required ++ "'"
  | unionBalance =>
    l.pick
      ("Use UNION ALL to combine results from different tables and plain UNION for results from the "
        ++ "same tables")
      ("Usa UNION ALL per combinare risultati di tabelle diverse e UNION per risultati delle stesse "
        ++ "tabelle")
  | setOperations min kinds =>
    l.pick "The query must use" "La query deve usare" ++ " " ++ (Bounds.atLeast min).phrase l ++ " "
      ++ l.pick "set operations of type" "operazioni insiemistiche di tipo" ++ " "
      ++ if kinds.isEmpty then "UNION/INTERSECT/EXCEPT" else "/".intercalate (kinds.map SetOperator.sql)
  | foreignKeyProjection .present =>
    l.pick "The main query must select only foreign key columns"
      "La query principale deve selezionare solo colonne chiave esterna"
  | foreignKeyProjection .absent =>
    l.pick "The main query must select at least one column that is not a foreign key"
      "La query principale deve selezionare almeno una colonna che non sia chiave esterna"
  | nullChecks state =>
    l.pick "The query" "La query" ++ " " ++ state.verb l ++ " "
      ++ l.pick "test for NULL with IS NULL or IS NOT NULL" "verificare NULL con IS NULL o IS NOT NULL"

/-! ## 2. Checks of clauses -/

/-- Checks the tables of a query. -/
def checkTables (o : Outline) (b : Bounds) : Observation :=
  passIf (b.admits o.tables.length)
    (toString o.tables.length ++ " tables (" ++ ", ".intercalate o.tables ++ ")")

/-- Checks the joins of the main blocks. -/
def checkJoins (o : Outline) (b : Bounds) (kinds : List JoinKind) : Observation :=
  let joins := o.mainBlocks.flatMap Block.joins
  let disallowed := if kinds.isEmpty then [] else joins.filter fun k => !kinds.contains k
  if disallowed.isEmpty then countWithin b joins.length "joins"
  else some ("disallowed joins: " ++ ", ".intercalate (disallowed.map JoinKind.title))

/-- Checks the number of conditions in the main blocks. -/
def checkConditions (o : Outline) (b : Bounds) : Observation :=
  countWithin b ((o.mainBlocks.map fun k => k.rawWherePredicate.total).foldl (· + ·) 0) "conditions"

/-- Checks the columns that are compared more than once. -/
def checkRepeatedColumns (o : Outline) (min : Nat) : Observation :=
  let found := sortedSet (o.blocks.flatMap fun k => k.wherePredicate.repeatedColumns)
  passIf (decide (min ≤ found.length))
    (if found.isEmpty then "no column is compared more than once within the same condition group"
    else "only " ++ toString found.length ++ " repeated: " ++ ", ".intercalate found)

/-- Checks the aggregate functions of the main blocks. -/
def checkAggregations (o : Outline) (b : Bounds) (functions : List String) : Observation :=
  let allowed := functions.map lower
  let calls := (o.mainBlocks.flatMap Block.aggregateCalls).filter fun n =>
    allowed.isEmpty || allowed.contains n
  passIf (b.admits calls.length)
    (if calls.isEmpty then "no aggregate function"
    else toString calls.length ++ " aggregates (" ++ ", ".intercalate calls ++ ")")

/-- Checks whether a clause is there and how large it is; `sizes` are those of the main blocks that
have it. -/
def checkClause (clause : String) (state : Presence) (sizes : List Nat) (min : Nat) (unit : String) :
    Observation :=
  let found := !sizes.isEmpty
  if !state.holds found then some (if found then clause ++ " is used" else "no " ++ clause)
  else if state = .present then
    let largest := sizes.foldl max 0
    passIf (decide (min ≤ largest)) (clause ++ " with " ++ toString largest ++ " " ++ unit)
  else none

/-- Checks the grouping of the main blocks. -/
def checkGroupBy (o : Outline) (state : Presence) (min : Nat) : Observation :=
  checkClause "GROUP BY" state ((o.mainBlocks.filter Block.hasGroupBy).map fun b =>
    if b.select.groupsAll then 0 else b.select.groupBy.length) min "columns"

/-- Checks the predicates of `HAVING` in the main blocks. -/
def checkHaving (o : Outline) (state : Presence) (min : Nat) : Observation :=
  checkClause "HAVING" state ((o.mainBlocks.filter fun b => b.select.having.isSome).map fun b =>
    b.havingPredicate.total) min "conditions"

/-- Checks the sort keys of the main blocks. -/
def checkOrderBy (o : Outline) (state : Presence) (min : Nat) : Observation :=
  checkClause "ORDER BY" state ((o.mainBlocks.filter fun b => !b.orderBy.isEmpty).map fun b =>
    b.orderBy.length) min "columns"

/-- Checks whether some main block uses `DISTINCT`. -/
def checkDistinct (o : Outline) (state : Presence) : Observation :=
  let found := o.mainBlocks.any Block.isDistinct
  passIf (state.holds found) (if found then "DISTINCT is used" else "no DISTINCT")

/-- Checks the number of subqueries and how they are nested. -/
def checkSubqueries (o : Outline) (b : Bounds) (nesting : Nesting) : Observation :=
  let total := o.subqueryCount
  match countWithin b total "subqueries" with
  | some observed => some observed
  | none =>
    match nesting with
    | .any => none
    | .flat =>
      passIf (!o.hasNestedSubqueries)
        (toString (total - o.topSubqueryCount) ++ " of " ++ toString total
          ++ " subqueries are nested (max depth " ++ toString o.maxDepth ++ ")")
    | .nested =>
      passIf (decide (3 ≤ o.maxDepth)) ("no nested subquery (max depth " ++ toString o.maxDepth ++ ")")

/-! ## 3. Selected columns and duplicate rows -/

/-- A selected column and its table, as far as they are known. -/
structure SelectedColumn where
  table : Option String
  column : Option String
  deriving DecidableEq, Repr, Inhabited

/-- All columns of a table. A table that is not in the catalog stands for itself. -/
def columnsOf (catalog : Catalog) (table : String) : List SelectedColumn :=
  match catalog.table? table with
  | some t => t.columnNames.map fun c => ⟨some t.name, some c⟩
  | none => [⟨some table, none⟩]

/-- The only table of a block that has a column. -/
def onlyOwner (catalog : Catalog) (b : Block) (column : String) : Option String :=
  match b.tables.filter fun t => (catalog.table? t.name).any (·.hasColumn column) with
  | [t] => some t.name
  | _ => none

/-- The columns that an output column stands for. -/
def selectedBy (catalog : Catalog) (b : Block) (c : OutputColumn) : List SelectedColumn :=
  if c.isWildcard then
    match c.table with
    | some t => columnsOf catalog t
    | none => b.tables.flatMap fun t => columnsOf catalog t.name
  else [⟨c.table <|> c.realName.bind (onlyOwner catalog b), c.realName⟩]

/-- The columns that a block selects, wildcards spelled out. -/
def selectedColumnsOf (catalog : Catalog) (b : Block) : List SelectedColumn :=
  b.outputColumns.flatMap (selectedBy catalog b)

/-- Whether some table of a block has a key whose columns are all selected. -/
def selectsKey (catalog : Catalog) (b : Block) : Bool :=
  let selected := selectedColumnsOf catalog b
  b.tables.any fun ref =>
    match catalog.table? ref.name with
    | none => false
    | some t =>
      let columns := (selected.filter fun c => c.table == some t.name).filterMap SelectedColumn.column
      t.candidateKeys.any fun key => !key.isEmpty && key.all columns.contains

/-- Whether the rows of a block are sure to be distinct: it groups, it computes one row of aggregates,
it selects a key, or it says `DISTINCT`, if that counts. -/
def guaranteesUnique (catalog : Catalog) (countsDistinct : Bool) (b : Block) : Bool :=
  (countsDistinct && b.isDistinct) || b.hasGroupBy
    || (b.outputColumns.all (fun c => c.realName.isNone && !c.isWildcard) && !b.aggregateCalls.isEmpty)
    || selectsKey catalog b

/-- Whether the outermost operation of a query is a set operation that removes duplicates. -/
def removesDuplicates (o : Outline) : Bool :=
  match o.query.body with
  | .setOperation _ quantifier _ _ => quantifier != .all && quantifier != .allByName
  | _ => false

/-- Checks what is asked about duplicate rows. -/
def checkDuplicates (o : Outline) (catalog : Catalog) (mode : DuplicateMode) : Observation :=
  let main := o.mainBlocks
  let unique := removesDuplicates o || (!main.isEmpty && main.all (guaranteesUnique catalog true))
  match mode with
  | .allowed => passIf (!unique) "rows are guaranteed unique (key selected, DISTINCT or GROUP BY)"
  | .unique => passIf unique "no selected key, DISTINCT or GROUP BY prevents duplicate rows"
  | .distinctRequired =>
    let distinct := main.filter Block.isDistinct
    if distinct.isEmpty then some "no DISTINCT"
    else
      passIf (!distinct.all (guaranteesUnique catalog false))
        "DISTINCT is redundant: rows are already unique"

/-- A query passes as one without duplicate rows if its outermost operation removes them, or if each main block
has unique rows. -/
theorem checkUnique_eq_none_iff {o : Outline} {catalog : Catalog} :
    checkDuplicates o catalog .unique = none ↔ removesDuplicates o = true ∨
      o.mainBlocks ≠ [] ∧ ∀ b ∈ o.mainBlocks, guaranteesUnique catalog true b = true := by
  simp [checkDuplicates]

/-- Checks the columns that are shown under another name. -/
def checkAliases (o : Outline) (min : Nat) : Observation :=
  let n := o.outputColumns.countP OutputColumn.isAliased
  passIf (decide (min ≤ n)) (toString n ++ " aliased columns")

/-- Checks the number of selected columns. -/
def checkSelectedColumns (o : Outline) (catalog : Catalog) (b : Bounds) : Observation :=
  let n := match o.mainBlock? with
    | some k => (selectedColumnsOf catalog k).length
    | none => 0
  countWithin b n "selected columns"

/-- Whether a selected column is a foreign key of its table. -/
def isForeignKeyColumn (catalog : Catalog) (c : SelectedColumn) : Bool :=
  match c.table, c.column with
  | some t, some n =>
    match catalog.table? t with
    | some t => ((t.columns.find? (·.name == lower n)).map Column.isForeignKey).getD false
    | none => false
  | _, _ => false

/-- A selected column as messages show it. -/
def SelectedColumn.text (c : SelectedColumn) : String :=
  match c.table, c.column with
  | some t, some n => t ++ "." ++ n
  | none, some n => n
  | _, none => "expression"

/-- Checks whether only foreign key columns are selected. -/
def checkForeignKeyProjection (o : Outline) (catalog : Catalog) (state : Presence) : Observation :=
  match o.mainBlock? with
  | none => some "no main query"
  | some b =>
    let (foreign, other) := (selectedColumnsOf catalog b).partition (isForeignKeyColumn catalog)
    let texts (cs : List SelectedColumn) : String := ", ".intercalate (cs.map SelectedColumn.text)
    match state with
    | .present =>
      if foreign.isEmpty then some "no foreign key column selected"
      else passIf other.isEmpty ("non foreign key columns selected: " ++ texts other)
    | .absent => passIf (!other.isEmpty) ("only foreign key columns selected: " ++ texts foreign)

/-! ## 4. Patterns, set operations and null tests -/

/-- The length of a pattern without `%` and backslashes. -/
def patternLength (pattern : String) : Nat := pattern.toList.countP fun c => c != '%' && c != '\\'

/-- Checks the length of every pattern. -/
def checkWildcardLength (o : Outline) (b : Bounds) : Observation :=
  if o.likePatterns.isEmpty then some "no LIKE pattern"
  else
    noneOf ((o.likePatterns.filter fun p => !b.admits (patternLength p)).map fun p =>
      "'" ++ p ++ "' has length " ++ toString (patternLength p)) ", "

/-- Whether a text has each character of another one at least as often. -/
def hasCharacters (required text : String) : Bool :=
  required.toList.all fun c => decide (required.toList.count c ≤ text.toList.count c)

/-- Checks whether some pattern has the required characters. -/
def checkWildcardCharacters (o : Outline) (required : String) : Observation :=
  passIf (o.likePatterns.any (hasCharacters required))
    (if o.likePatterns.isEmpty then "no LIKE pattern"
    else "patterns " ++ ", ".intercalate (o.likePatterns.map fun p => "'" ++ p ++ "'"))

/-- Checks that each union says `ALL` just if its sides read different tables. -/
def checkUnionBalance (o : Outline) : Observation :=
  noneOf ((o.setOperations.filter fun s => s.operator = .union && s.all == (s.left == s.right)).map
    SetOperation.text) "; "

/-- Checks the number of set operations. -/
def checkSetOperations (o : Outline) (min : Nat) (kinds : List SetOperator) : Observation :=
  countWithin (.atLeast min)
    (o.setOperations.countP fun s => kinds.isEmpty || kinds.contains s.operator) "set operations"

/-- Checks the null tests of all blocks. -/
def checkNullChecks (o : Outline) (state : Presence) : Observation :=
  let n := (o.blocks.map Block.nullChecks).foldl (· + ·) 0
  passIf (state.holds (decide (0 < n)))
    (if 0 < n then toString n ++ " NULL checks" else "no IS NULL / IS NOT NULL check")

/-! ## 5. Validation -/

/-- Checks a constraint on a query over a catalog. -/
def check (o : Outline) (catalog : Catalog) : QueryConstraint → Observation
  | tables b => checkTables o b
  | joins b kinds => checkJoins o b kinds
  | conditions b => checkConditions o b
  | repeatedColumnConditions min => checkRepeatedColumns o min
  | aggregations b functions => checkAggregations o b functions
  | groupBy state min => checkGroupBy o state min
  | having state min => checkHaving o state min
  | orderBy state min => checkOrderBy o state min
  | distinct state => checkDistinct o state
  | subqueries b nesting => checkSubqueries o b nesting
  | duplicates mode => checkDuplicates o catalog mode
  | columnAliases min => checkAliases o min
  | selectedColumns b => checkSelectedColumns o catalog b
  | wildcardLength b => checkWildcardLength o b
  | wildcardCharacters required => checkWildcardCharacters o required
  | unionBalance => checkUnionBalance o
  | setOperations min kinds => checkSetOperations o min kinds
  | foreignKeyProjection state => checkForeignKeyProjection o catalog state
  | nullChecks state => checkNullChecks o state

/-- Validates a constraint: nothing, or how it is violated. -/
def validate (o : Outline) (catalog : Catalog) (l : Language) (c : QueryConstraint) :
    Except Violation Unit :=
  match c.check o catalog with
  | none => .ok ()
  | some observed => .error ⟨c.name, c.description l, observed⟩

/-- The language words a violation and decides nothing. -/
theorem validate_eq_ok_iff {o : Outline} {catalog : Catalog} {l : Language} {c : QueryConstraint} :
    c.validate o catalog l = .ok () ↔ c.check o catalog = none := by
  unfold validate
  cases c.check o catalog <;> simp

/-- Two queries are validated alike just if the same is observed of them. -/
theorem validate_eq_iff {o o' : Outline} {catalog : Catalog} {l : Language} {c : QueryConstraint} :
    c.validate o catalog l = c.validate o' catalog l ↔ c.check o catalog = c.check o' catalog := by
  unfold validate
  cases c.check o catalog <;> cases c.check o' catalog <;> simp

end QueryConstraint

end QueryDrill
