/-!
The syntax of SQL statements.

An expression has a constructor of its own where some analysis looks into it: column references,
literals, connectives, null tests, pattern matches, calls and subqueries. Every other expression (a
cast, a range test, a window, an interval, …) is a `form`: fixed words around operands in the order in
which they are written. So the analyses see through all of them in one way, and their text is still
exact.

Operands, clauses and list entries stand in reading order, except where a comment says otherwise; the
walks over the syntax rely on that.
-/

namespace QueryDrill.Sql

/-! ## 1. Names, literals and operators -/

/-- A name and the quote it was written in. -/
structure Ident where
  value : String
  quote : Option Char
  deriving DecidableEq, Repr, Inhabited

/-- A name in parts, separated by points. -/
abbrev Name := List Ident

/-- A name with an optional list of column names, as it follows `AS` in a `FROM` clause. -/
structure TableAlias where
  name : Ident
  columns : List Ident
  deriving DecidableEq, Repr, Inhabited

/-- A literal. -/
inductive Literal where
  | number (digits : String) (long : Bool)
  | singleQuoted (text : String)
  | doubleQuoted (text : String)
  /-- A string whose escapes were written with backslashes. -/
  | escaped (text : String)
  | boolean (value : Bool)
  | null
  /-- A literal or parameter that is written back as it was read. -/
  | verbatim (text : String)
  deriving DecidableEq, Repr, Inhabited

/-- An operator between two operands. -/
inductive BinaryOp where
  | and
  | or
  | symbol (text : String)
  deriving DecidableEq, Repr, Inhabited

/-- An operator with one operand. -/
inductive UnaryOp where
  | not
  | before (text : String)
  | after (text : String)
  deriving DecidableEq, Repr, Inhabited

/-- A kind of pattern match. -/
inductive LikeKind where
  | like
  | ilike
  | similar
  | rlike
  | regexp
  deriving DecidableEq, Repr, Inhabited

/-- How a subquery stands in an expression. -/
inductive SubqueryShape where
  | scalar
  | exists
  | notExists
  | array
  deriving DecidableEq, Repr, Inhabited

/-- How a call treats the operands of its aggregate. -/
inductive CallShape where
  /-- A function that is called without parentheses, such as `CURRENT_DATE`. -/
  | bare
  | plain
  | distinct
  deriving DecidableEq, Repr, Inhabited

/-- A direction and the place of nulls in `ORDER BY`. -/
structure SortOrder where
  ascending : Option Bool
  nullsFirst : Option Bool
  deriving DecidableEq, Repr, Inhabited

/-- A set operator. -/
inductive SetOperator where
  | union
  | intersect
  | except
  deriving DecidableEq, Repr, Inhabited

/-- What follows a set operator. -/
inductive SetQuantifier where
  | none
  | all
  | distinct
  | byName
  | allByName
  | distinctByName
  deriving DecidableEq, Repr, Inhabited

/-- A join operator. -/
inductive JoinOperator where
  | inner
  | leftOuter
  | rightOuter
  | fullOuter
  | cross
  | leftSemi
  | rightSemi
  | leftAnti
  | rightAnti
  | crossApply
  | outerApply
  deriving DecidableEq, Repr, Inhabited

/-! ## 2. Expressions and queries -/

mutual

/-- An expression. -/
inductive Expr where
  /-- A column reference: a name of one part, or of several. -/
  | column (parts : Name)
  | literal (value : Literal)
  /-- An expression in parentheses. -/
  | nested (e : Expr)
  | unary (op : UnaryOp) (e : Expr)
  | binary (left : Expr) (op : BinaryOp) (right : Expr)
  /-- `IS NULL`, or `IS NOT NULL` when `negated`. -/
  | nullTest (negated : Bool) (e : Expr)
  | like (kind : LikeKind) (negated : Bool) (e pattern : Expr) (escape : Option Char)
  | subquery (shape : SubqueryShape) (q : Query)
  | inSubquery (negated : Bool) (e : Expr) (q : Query)
  /-- A call. A walk meets the arguments, the filter, the window and then the sort keys. -/
  | call (name : Name) (shape : CallShape) (args : List Expr) (filter : Option Expr)
      (nulls : String) (window : Option Expr) (keys : List SortKey)
  /-- `CASE`. A walk meets the operand, all conditions, all results and then the alternative. -/
  | choice (operand : Option Expr) (conditions results : List Expr) (otherwise : Option Expr)
  /-- `TRIM` of given characters. A walk meets the trimmed text first. -/
  | trimOf (side : String) (what text : Expr)
  /-- Fixed words around operands: `words` has one entry more than `operands`. -/
  | form (words : List String) (operands : List Expr)

/-- An entry of `ORDER BY`. -/
structure SortKey where
  expr : Expr
  order : SortOrder

/-- A query that `WITH` gives a name. -/
structure Cte where
  name : TableAlias
  query : Query
  source : Option Ident

/-- A query: a body with its `WITH` list, its order and its limits. -/
structure Query where
  recursive : Bool
  ctes : List Cte
  body : Body
  orderBy : List SortKey
  limit : Option Expr
  limitBy : List Expr
  /-- A form that holds the whole `OFFSET` clause. -/
  offset : Option Expr
  /-- A form that holds the whole `FETCH` clause. -/
  fetch : Option Expr
  locks : List String

/-- The body of a query. -/
inductive Body where
  | select (s : Select)
  /-- A query in parentheses. -/
  | paren (q : Query)
  | setOperation (op : SetOperator) (quantifier : SetQuantifier) (left right : Body)
  /-- Each row is a form. -/
  | values (rows : List Expr)
  | table (name : String)
  | insert (i : Insertion)
  | update (u : Update)
  /-- A query whose rows go into a directory, with the words before it. -/
  | toDirectory (words : String) (q : Query)

/-- A `SELECT`. The clauses in forms are whole clauses. -/
structure Select where
  distinct : Option Expr
  top : Option Expr
  projection : List SelectItem
  into : Option String
  sources : List FromItem
  lateralViews : List Expr
  selection : Option Expr
  /-- `GROUP BY ALL`. -/
  groupsAll : Bool
  groupBy : List Expr
  clusterBy : List Expr
  distributeBy : List Expr
  sortBy : List Expr
  having : Option Expr
  windows : List Expr
  qualify : Option Expr

/-- An entry of the `SELECT` list. -/
inductive SelectItem where
  | expr (e : Expr) (label : Option Ident)
  /-- `*`, or `name.*` when `name` has parts, with the clauses that narrow it. -/
  | wildcard (name : Name) (options : List Expr)

/-- An entry of the `FROM` list: a table and what is joined to it. -/
structure FromItem where
  relation : TableFactor
  joins : List Join

/-- A source of rows. -/
inductive TableFactor where
  /-- A table by name. The arguments are a form that holds them with their parentheses. -/
  | table (name : Name) (partitions : List Ident) (args : Option Expr) (label : Option TableAlias)
      (hints : List Expr)
  | derived (lateral : Bool) (q : Query) (label : Option TableAlias)
  /-- A join in parentheses. -/
  | joined (item : FromItem) (label : Option TableAlias)
  /-- A source that is computed from expressions, as fixed words around them; `rest` follows the
  alias. -/
  | computed (words : List String) (operands : List Expr) (label : Option TableAlias) (rest : String)
  /-- A source with a clause that turns rows to columns or columns to rows. -/
  | turned (relation : TableFactor) (words : List String) (operands : List Expr)
      (label : Option TableAlias)

/-- A joined source. -/
structure Join where
  relation : TableFactor
  operator : JoinOperator
  constraint : JoinConstraint

/-- What a join matches rows by. -/
inductive JoinConstraint where
  | on (e : Expr)
  | using (columns : List Ident)
  | natural
  | none

/-- An `INSERT`. -/
structure Insertion where
  /-- The words before the table. -/
  verb : String
  table : Name
  label : Option Ident
  columns : List Ident
  /-- Absent for `DEFAULT VALUES`. -/
  source : Option Query
  partition : List Expr
  columnsAfter : List Ident
  /-- The clause for rows that are already there, in forms. -/
  conflict : List Expr
  returning : List SelectItem

/-- An `UPDATE`. -/
structure Update where
  target : FromItem
  /-- Each assignment is a form. -/
  assignments : List Expr
  source : Option FromItem
  selection : Option Expr
  returning : List SelectItem

end

/-! ## 3. Statements -/

/-- An option of a column definition, with the name of the constraint it makes. -/
inductive ColumnOption where
  | notNull
  /-- `PRIMARY KEY` with what follows it. -/
  | primaryKey (rest : String)
  /-- `UNIQUE` with what follows it. -/
  | unique (rest : String)
  | references (table : Name) (columns : List Ident) (rest : String)
  | other (text : String)
  deriving DecidableEq, Repr, Inhabited

/-- A column definition. -/
structure ColumnDef where
  name : Ident
  /-- The text of the data type. -/
  dataType : String
  /-- The text of the `COLLATE` clause; empty without one. -/
  collation : String
  options : List (Option Ident × ColumnOption)
  deriving DecidableEq, Repr, Inhabited

/-- A constraint of a table definition. -/
inductive TableConstraint where
  | primaryKey (name : Option Ident) (columns : List Ident) (rest : String)
  | unique (name : Option Ident) (columns : List Ident) (rest : String)
  | foreignKey (name : Option Ident) (columns : List Ident) (table : Name)
      (referenced : List Ident) (rest : String)
  | other (text : String)
  deriving DecidableEq, Repr, Inhabited

/-- A `CREATE TABLE`. -/
structure CreateTable where
  /-- The words before the name. -/
  verb : String
  name : Name
  /-- What stands between the name and the column list. -/
  beforeColumns : String
  columns : List ColumnDef
  constraints : List TableConstraint
  /-- Whether an empty column list is written out. -/
  showsEmptyList : Bool
  /-- What stands after the column list. -/
  rest : String
  deriving DecidableEq, Repr, Inhabited

/-- A statement. What is neither a query nor an insertion nor a table definition is kept as text. -/
inductive Statement where
  | query (q : Query)
  | insert (i : Insertion)
  | createTable (c : CreateTable)
  | other (text : String)

end QueryDrill.Sql
