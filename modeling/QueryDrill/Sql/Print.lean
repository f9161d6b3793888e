import QueryDrill.Sql.Syntax
/-!
The text of SQL syntax.

Each piece has one text: keywords in upper case, one space between words, a comma and a space between
entries. A quote inside a quoted piece is written twice, unless a backslash stands before it.
-/

namespace QueryDrill.Sql

/-! ## 1. Names, literals and operators -/

/-- Entries with a comma and a space between them. -/
def commaList (entries : List String) : String := ", ".intercalate entries

/-- The characters of a quoted piece, with each quote doubled. A quote after a backslash is written
once, and two quotes in a row are taken for one. -/
def quoteChars (quote previous : Char) : List Char → List Char
  | [] => []
  | c :: cs =>
    if c = quote then
      if previous = '\\' then c :: quoteChars quote previous cs
      else
        match cs with
        | c' :: r => if c' = quote then c :: c :: quoteChars quote c r else c :: c :: quoteChars quote c (c' :: r)
        | [] => [c, c]
    else c :: quoteChars quote c cs

/-- A piece between quotes. -/
def quoted (quote : Char) (s : String) : String :=
  String.ofList (quote :: quoteChars quote '\x00' s.toList ++ [quote])

/-- A name as it was written. -/
def Ident.sql (i : Ident) : String :=
  match i.quote with
  | none => i.value
  | some '[' => "[" ++ i.value ++ "]"
  | some q => quoted q i.value

/-- The names of a list, with commas. -/
def identList (is : List Ident) : String := commaList (is.map Ident.sql)

/-- A name in parts. -/
def nameSql (n : Name) : String := ".".intercalate (n.map Ident.sql)

/-- A name and its column list. -/
def TableAlias.sql (a : TableAlias) : String :=
  a.name.sql ++ if a.columns.isEmpty then "" else " (" ++ identList a.columns ++ ")"

/-- The `AS` clause of a source. -/
def aliasSql : Option TableAlias → String
  | none => ""
  | some a => " AS " ++ a.sql

/-- A character of a string whose escapes are written with backslashes. -/
def escapeChar (c : Char) : String :=
  match c with
  | '\'' => "\\'"
  | '\\' => "\\\\"
  | '\n' => "\\n"
  | '\t' => "\\t"
  | '\r' => "\\r"
  | c => c.toString

/-- The text of a literal. -/
def Literal.sql : Literal → String
  | number n long => if long then n ++ "L" else n
  | singleQuoted s => quoted '\'' s
  | doubleQuoted s => quoted '"' s
  | escaped s => "E'" ++ String.join (s.toList.map escapeChar) ++ "'"
  | boolean b => if b then "true" else "false"
  | null => "NULL"
  | verbatim s => s

/-- The text of an operator. -/
def BinaryOp.sql : BinaryOp → String
  | and => "AND"
  | or => "OR"
  | symbol s => s

/-- The words of a pattern match. -/
def LikeKind.sql : LikeKind → String
  | like => "LIKE"
  | ilike => "ILIKE"
  | similar => "SIMILAR TO"
  | rlike => "RLIKE"
  | regexp => "REGEXP"

/-- What follows the expression of a sort key. -/
def SortOrder.sql (o : SortOrder) : String :=
  (match o.ascending with
    | some true => " ASC"
    | some false => " DESC"
    | none => "")
  ++ match o.nullsFirst with
    | some true => " NULLS FIRST"
    | some false => " NULLS LAST"
    | none => ""

/-- The word of a set operator. -/
def SetOperator.sql : SetOperator → String
  | union => "UNION"
  | intersect => "INTERSECT"
  | except => "EXCEPT"

/-- What follows a set operator, with the space before it. -/
def SetQuantifier.sql : SetQuantifier → String
  | none => ""
  | all => " ALL"
  | distinct => " DISTINCT"
  | byName => " BY NAME"
  | allByName => " ALL BY NAME"
  | distinctByName => " DISTINCT BY NAME"

/-- The words of a join operator. -/
def JoinOperator.sql : JoinOperator → String
  | inner => "JOIN"
  | leftOuter => "LEFT JOIN"
  | rightOuter => "RIGHT JOIN"
  | fullOuter => "FULL JOIN"
  | cross => "CROSS JOIN"
  | leftSemi => "LEFT SEMI JOIN"
  | rightSemi => "RIGHT SEMI JOIN"
  | leftAnti => "LEFT ANTI JOIN"
  | rightAnti => "RIGHT ANTI JOIN"
  | crossApply => "CROSS APPLY"
  | outerApply => "OUTER APPLY"

/-- Fixed words around the texts of operands. -/
def interleave : List String → List String → String
  | w :: ws, o :: os => w ++ o ++ interleave ws os
  | ws, [] => String.join ws
  | [], os => String.join os

/-- A clause that is written only when it has entries. -/
def clause (before : String) (entries : List String) (after : String) : String :=
  if entries.isEmpty then "" else before ++ commaList entries ++ after

/-- The branches of a `CASE`: conditions and results side by side. -/
def branchesSql : List String → List String → String
  | c :: cs, r :: rs => " WHEN " ++ c ++ " THEN " ++ r ++ branchesSql cs rs
  | _, _ => ""

/-! ## 2. Expressions and queries -/

mutual

/-- The text of an expression. -/
def Expr.sql : Expr → String
  | .column parts => nameSql parts
  | .literal v => v.sql
  | .nested e => "(" ++ e.sql ++ ")"
  | .unary .not e => "NOT " ++ e.sql
  | .unary (.before s) e => s ++ e.sql
  | .unary (.after s) e => e.sql ++ s
  | .binary l op r => l.sql ++ " " ++ op.sql ++ " " ++ r.sql
  | .nullTest negated e => e.sql ++ if negated then " IS NOT NULL" else " IS NULL"
  | .like kind negated e p escape =>
    e.sql ++ (if negated then " NOT " else " ") ++ kind.sql ++ " " ++ p.sql
      ++ match escape with
        | some c => " ESCAPE '" ++ c.toString ++ "'"
        | none => ""
  | .subquery .scalar q => "(" ++ q.sql ++ ")"
  | .subquery .exists q => "EXISTS (" ++ q.sql ++ ")"
  | .subquery .notExists q => "NOT EXISTS (" ++ q.sql ++ ")"
  | .subquery .array q => "ARRAY(" ++ q.sql ++ ")"
  | .inSubquery negated e q => e.sql ++ (if negated then " NOT IN (" else " IN (") ++ q.sql ++ ")"
  | .call name shape args filter nulls window keys =>
    match shape with
    | .bare => nameSql name
    | _ =>
      nameSql name ++ "(" ++ (if shape = .distinct then "DISTINCT " else "")
        ++ commaList (sqlAll args) ++ clause " ORDER BY " (sqlKeys keys) "" ++ ")"
        ++ sqlOption " FILTER (WHERE " filter ")" ++ nulls ++ sqlOption " OVER " window ""
  | .choice operand conditions results otherwise =>
    "CASE" ++ sqlOption " " operand "" ++ branchesSql (sqlAll conditions) (sqlAll results)
      ++ sqlOption " ELSE " otherwise "" ++ " END"
  | .trimOf side what e => "TRIM(" ++ side ++ what.sql ++ " FROM " ++ e.sql ++ ")"
  | .form words operands => interleave words (sqlAll operands)

/-- The texts of expressions. -/
def sqlAll : List Expr → List String
  | [] => []
  | e :: es => e.sql :: sqlAll es

/-- An optional expression between two words. -/
def sqlOption (before : String) (e : Option Expr) (after : String) : String :=
  match e with
  | none => ""
  | some e => before ++ e.sql ++ after

/-- The texts of sort keys. -/
def sqlKeys : List SortKey → List String
  | [] => []
  | ⟨e, o⟩ :: ks => (e.sql ++ o.sql) :: sqlKeys ks

/-- The texts of a `WITH` list. -/
def sqlCtes : List Cte → List String
  | [] => []
  | ⟨name, q, source⟩ :: cs =>
    (name.sql ++ " AS (" ++ q.sql ++ ")" ++ match source with
      | none => ""
      | some s => " FROM " ++ s.sql) :: sqlCtes cs

/-- The text of a query. -/
def Query.sql : Query → String
  | ⟨recursive, ctes, body, orderBy, limit, limitBy, offset, fetch, locks⟩ =>
    clause (if recursive then "WITH RECURSIVE " else "WITH ") (sqlCtes ctes) " " ++ body.sql
      ++ clause " ORDER BY " (sqlKeys orderBy) "" ++ sqlOption " LIMIT " limit ""
      ++ sqlOption " " offset "" ++ clause " BY " (sqlAll limitBy) "" ++ sqlOption " " fetch ""
      ++ String.join (locks.map (" " ++ ·))

/-- The text of a query body. -/
def Body.sql : Body → String
  | .select s => s.sql
  | .paren q => "(" ++ q.sql ++ ")"
  | .setOperation op quantifier l r => l.sql ++ " " ++ op.sql ++ quantifier.sql ++ " " ++ r.sql
  | .values rows => "VALUES " ++ commaList (sqlAll rows)
  | .table name => "TABLE " ++ name
  | .insert i => i.sql
  | .update u => u.sql
  | .toDirectory words q => words ++ q.sql

/-- The text of a `SELECT`. -/
def Select.sql : Select → String
  | ⟨distinct, top, projection, into, sources, views, selection, groupsAll, groupBy, clusterBy,
      distributeBy, sortBy, having, windows, qualify⟩ =>
    "SELECT" ++ sqlOption " " distinct "" ++ sqlOption " " top "" ++ " "
      ++ commaList (sqlItems projection)
      ++ (match into with
        | none => ""
        | some s => " " ++ s)
      ++ clause " FROM " (sqlSources sources) "" ++ String.join (sqlAll views)
      ++ sqlOption " WHERE " selection ""
      ++ (if groupsAll then " GROUP BY ALL" else clause " GROUP BY " (sqlAll groupBy) "")
      ++ clause " CLUSTER BY " (sqlAll clusterBy) ""
      ++ clause " DISTRIBUTE BY " (sqlAll distributeBy) "" ++ clause " SORT BY " (sqlAll sortBy) ""
      ++ sqlOption " HAVING " having "" ++ clause " WINDOW " (sqlAll windows) ""
      ++ sqlOption " QUALIFY " qualify ""

/-- The texts of a `SELECT` list. -/
def sqlItems : List SelectItem → List String
  | [] => []
  | .expr e label :: is =>
    (match label with
      | none => e.sql
      | some a => e.sql ++ " AS " ++ a.sql) :: sqlItems is
  | .wildcard name options :: is =>
    ((if name.isEmpty then "*" else nameSql name ++ ".*") ++ String.join (sqlAll options))
      :: sqlItems is

/-- The text of an entry of `FROM`. -/
def FromItem.sql : FromItem → String
  | ⟨relation, joins⟩ => relation.sql ++ sqlJoins joins

/-- The texts of a `FROM` list. -/
def sqlSources : List FromItem → List String
  | [] => []
  | s :: ss => s.sql :: sqlSources ss

/-- The text of a source of rows. -/
def TableFactor.sql : TableFactor → String
  | .table name partitions args label hints =>
    nameSql name ++ clause "PARTITION (" (partitions.map Ident.sql) ")" ++ sqlOption "" args ""
      ++ aliasSql label ++ clause " WITH (" (sqlAll hints) ")"
  | .derived lateral q label =>
    (if lateral then "LATERAL (" else "(") ++ q.sql ++ ")" ++ aliasSql label
  | .joined item label => "(" ++ item.sql ++ ")" ++ aliasSql label
  | .computed words operands label rest => interleave words (sqlAll operands) ++ aliasSql label ++ rest
  | .turned relation words operands label =>
    relation.sql ++ interleave words (sqlAll operands) ++ aliasSql label

/-- The text of a chain of joins. -/
def sqlJoins : List Join → String
  | [] => ""
  | ⟨relation, operator, constraint⟩ :: js =>
    (match constraint with
      | .natural => " NATURAL "
      | _ => " ") ++ operator.sql ++ " " ++ relation.sql ++ constraint.sql ++ sqlJoins js

/-- The text of a join constraint, after the joined source. -/
def JoinConstraint.sql : JoinConstraint → String
  | .on e => " ON " ++ e.sql
  | .using columns => " USING(" ++ identList columns ++ ")"
  | .natural => ""
  | .none => ""

/-- The text of an insertion. -/
def Insertion.sql : Insertion → String
  | ⟨verb, table, label, columns, source, partition, columnsAfter, conflict, returning⟩ =>
    verb ++ " " ++ nameSql table
      ++ (match label with
        | none => ""
        | some a => " AS " ++ a.sql)
      ++ " " ++ clause "(" (columns.map Ident.sql) ") "
      ++ clause "PARTITION (" (sqlAll partition) ") "
      ++ clause "(" (columnsAfter.map Ident.sql) ") "
      ++ (match source with
        | some q => q.sql
        | none => if columns.isEmpty then "DEFAULT VALUES" else "")
      ++ String.join (sqlAll conflict) ++ clause " RETURNING " (sqlItems returning) ""

/-- The text of an update. -/
def Update.sql : Update → String
  | ⟨target, assignments, source, selection, returning⟩ =>
    "UPDATE " ++ target.sql ++ clause " SET " (sqlAll assignments) ""
      ++ (match source with
        | none => ""
        | some s => " FROM " ++ s.sql)
      ++ sqlOption " WHERE " selection "" ++ clause " RETURNING " (sqlItems returning) ""

end

/-! ## 3. Statements -/

/-- The clause that names a constraint. -/
def constraintName : Option Ident → String
  | none => ""
  | some n => "CONSTRAINT " ++ n.sql ++ " "

/-- The text of a column option. -/
def ColumnOption.sql : ColumnOption → String
  | notNull => "NOT NULL"
  | primaryKey rest => "PRIMARY KEY" ++ rest
  | unique rest => "UNIQUE" ++ rest
  | references table columns rest =>
    "REFERENCES " ++ nameSql table ++ clause " (" (columns.map Ident.sql) ")" ++ rest
  | other text => text

/-- The text of a column definition. -/
def ColumnDef.sql (c : ColumnDef) : String :=
  (if c.dataType = "" then c.name.sql else c.name.sql ++ " " ++ c.dataType) ++ c.collation
    ++ String.join (c.options.map fun (n, o) => " " ++ constraintName n ++ o.sql)

/-- The text of a table constraint. -/
def TableConstraint.sql : TableConstraint → String
  | primaryKey name columns rest =>
    constraintName name ++ "PRIMARY KEY (" ++ identList columns ++ ")" ++ rest
  | unique name columns rest => constraintName name ++ "UNIQUE (" ++ identList columns ++ ")" ++ rest
  | foreignKey name columns table referenced rest =>
    constraintName name ++ "FOREIGN KEY (" ++ identList columns ++ ") REFERENCES " ++ nameSql table
      ++ "(" ++ identList referenced ++ ")" ++ rest
  | other text => text

/-- The text of a table definition. -/
def CreateTable.sql (c : CreateTable) : String :=
  let entries := c.columns.map ColumnDef.sql ++ c.constraints.map TableConstraint.sql
  c.verb ++ nameSql c.name ++ c.beforeColumns
    ++ (if entries.isEmpty then (if c.showsEmptyList then " ()" else "")
      else " (" ++ commaList entries ++ ")")
    ++ c.rest

/-- The text of a statement. -/
def Statement.sql : Statement → String
  | query q => q.sql
  | insert i => i.sql
  | createTable c => c.sql
  | other text => text

end QueryDrill.Sql
