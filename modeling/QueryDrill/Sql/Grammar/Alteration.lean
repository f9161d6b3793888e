import QueryDrill.Sql.Grammar.Creation
/-!
Changes of definitions: tables, views, indexes and roles. They are kept as text.
-/

namespace QueryDrill.Sql.Parser

open QueryDrill.Sql

/-! ## 1. Parts of a table -/

/-- Expressions that pick partitions, in parentheses. -/
def partitionList (g : Grammar) : Parser String := do
  return "(" ++ commaList (sqlAll (← parenthesized (commaSeparated g.expr))) ++ ")"

/-- What a table gets, after the word `ADD`. -/
def alterAdd (g : Grammar) : Parser String := do
  let d ← dialect
  if let some c ← tableConstraint? g then return "ADD " ++ c.sql
  let unlessThere ← unlessExists
  let partitions ← repeatWhile (fun partitions => do
    unless ← keyword? "PARTITION" do return none
    return some (("PARTITION " ++ (← partitionList g)) :: partitions)) ([] : List String)
  unless partitions.isEmpty do
    return "ADD " ++ unlessThere ++ " ".intercalate partitions.reverse
  let word ← word? "COLUMN"
  let unlessThere ← do
    if d = .postgres || d = .generic then
      let again ← unlessExists
      pure (if again = "" then unlessThere else again)
    else pure ""
  return "ADD " ++ word ++ unlessThere ++ (← columnDef g).sql

/-- What a table is called now, after the word `RENAME`. -/
def alterRename : Parser String := do
  let pair (word : String) : Parser String := do
    let old ← ident
    keyword "TO"
    return "RENAME " ++ word ++ " " ++ old.sql ++ " TO " ++ (← ident).sql
  if (← dialect) = .postgres then
    if ← keyword? "CONSTRAINT" then return ← pair "CONSTRAINT"
  if ← keyword? "TO" then return "RENAME TO " ++ nameSql (← name)
  let _ ← keyword? "COLUMN"
  pair "COLUMN"

/-- What a table does no more, after the word `DISABLE`. -/
def alterDisable : Parser String := do
  if ← keywords? ["ROW", "LEVEL", "SECURITY"] then return "DISABLE ROW LEVEL SECURITY"
  match ← oneOf? ["RULE", "TRIGGER"] with
  | some k => return "DISABLE " ++ k ++ " " ++ (← ident).sql
  | none => fail "ROW LEVEL SECURITY, RULE, or TRIGGER after DISABLE"

/-- What a table does from now on, after the word `ENABLE`. -/
def alterEnable : Parser String := do
  if ← keywords? ["ROW", "LEVEL", "SECURITY"] then return "ENABLE ROW LEVEL SECURITY"
  for words in [["ALWAYS", "RULE"], ["ALWAYS", "TRIGGER"], ["REPLICA", "RULE"], ["REPLICA", "TRIGGER"], ["RULE"],
      ["TRIGGER"]] do
    if ← keywords? words then return "ENABLE " ++ " ".intercalate words ++ " " ++ (← ident).sql
  fail "ALWAYS, REPLICA, ROW LEVEL SECURITY, RULE, or TRIGGER after ENABLE"

/-- What a table loses, after the word `DROP`. -/
def alterDrop (g : Grammar) : Parser String := do
  let d ← dialect
  if ← keywords? ["IF", "EXISTS", "PARTITION"] then return "DROP IF EXISTS PARTITION " ++ (← partitionList g)
  if ← keyword? "PARTITION" then return "DROP PARTITION " ++ (← partitionList g)
  let part (word : String) : Parser String := do
    let ifThere ← ifExists
    let part ← ident
    let cascade := if ← keyword? "CASCADE" then " CASCADE" else ""
    return "DROP " ++ word ++ " " ++ ifThere ++ part.sql ++ cascade
  if ← keyword? "CONSTRAINT" then return ← part "CONSTRAINT"
  if ← keywords? ["PRIMARY", "KEY"] then
    if d = .mysql || d = .generic then return "DROP PRIMARY KEY"
  let _ ← keyword? "COLUMN"
  part "COLUMN"

/-- Another name for partitions, after the word `PARTITION`. -/
def alterPartition (g : Grammar) : Parser String := do
  let old ← partitionList g
  keywords ["RENAME", "TO", "PARTITION"]
  return "PARTITION " ++ old ++ " RENAME TO PARTITION " ++ (← partitionList g)

/-- Another name, type and options for a column, after the word `CHANGE`. -/
def alterChange (g : Grammar) : Parser String := do
  let _ ← keyword? "COLUMN"
  let old ← ident
  let new ← ident
  let type ← dataType
  let options ← repeatWhile (fun options => do
    return (← columnOption? g).map (· :: options)) ([] : List ColumnOption)
  return "CHANGE COLUMN " ++ old.sql ++ " " ++ new.sql ++ " " ++ type.text
    ++ String.join (options.reverse.map fun o => " " ++ o.sql)

/-- The sequence that a column is filled from, after the words `ADD GENERATED`. -/
def alterGenerated : Parser String := do
  let when ← do
    if ← keyword? "ALWAYS" then pure " ALWAYS"
    else if ← keywords? ["BY", "DEFAULT"] then pure " BY DEFAULT"
    else pure ""
  keywords ["AS", "IDENTITY"]
  let options ← if ← symbol? "(" then do
      let options ← sequenceOptions
      symbol ")"
      pure options
    else pure ""
  return "ADD GENERATED" ++ when ++ " AS IDENTITY" ++ if options = "" then "" else " (" ++ options ++ " )"

/-- A change of a column, after the word `ALTER`. -/
def alterColumn (g : Grammar) : Parser String := do
  let isPostgres := (← dialect) = .postgres
  let _ ← keyword? "COLUMN"
  let opening := "ALTER COLUMN " ++ (← ident).sql ++ " "
  for words in [["SET", "NOT", "NULL"], ["DROP", "NOT", "NULL"], ["DROP", "DEFAULT"]] do
    if ← keywords? words then return opening ++ " ".intercalate words
  if ← keywords? ["SET", "DEFAULT"] then return opening ++ "SET DEFAULT " ++ (← g.expr).sql
  let typed ← do
    if ← keywords? ["SET", "DATA", "TYPE"] then pure true
    else if isPostgres then keyword? "TYPE"
    else pure false
  if typed then
    let type ← dataType
    let conversion ← if isPostgres then clause? ["USING"] g.expr else pure none
    return opening ++ "SET DATA TYPE " ++ type.text ++ sqlOption " USING " conversion ""
  if ← keywords? ["ADD", "GENERATED"] then return opening ++ (← alterGenerated)
  if isPostgres then
    fail "SET/DROP NOT NULL, SET DEFAULT, SET DATA TYPE, or ADD GENERATED after ALTER COLUMN"
  fail "SET/DROP NOT NULL, SET DEFAULT, or SET DATA TYPE after ALTER COLUMN"

/-- One change of a table. -/
def tableChange (g : Grammar) : Parser String := do
  match ← oneOf? ["ADD", "RENAME", "DISABLE", "ENABLE", "DROP", "PARTITION", "CHANGE", "ALTER", "SWAP"] with
  | some "ADD" => alterAdd g
  | some "RENAME" => alterRename
  | some "DISABLE" => alterDisable
  | some "ENABLE" => alterEnable
  | some "DROP" => alterDrop g
  | some "PARTITION" => alterPartition g
  | some "CHANGE" => alterChange g
  | some "ALTER" => alterColumn g
  | some _ =>
    keyword "WITH"
    return "SWAP WITH " ++ nameSql (← name)
  | none => fail "ADD, RENAME, PARTITION, SWAP or DROP after ALTER TABLE"

/-! ## 2. Alterations -/

/-- A change of a table, after the words `ALTER TABLE`. -/
def alterTable (g : Grammar) : Parser String := do
  let ifThere ← ifExists
  let only ← word? "ONLY"
  let table ← name
  return "ALTER TABLE " ++ ifThere ++ only ++ nameSql table ++ " "
    ++ commaList (← commaSeparated (tableChange g))

/-- Another query for a view, after the words `ALTER VIEW`. -/
def alterView (g : Grammar) : Parser String := do
  let view ← name
  let columns ← columnList? false
  let options ← options? g "WITH"
  keyword "AS"
  return "ALTER VIEW " ++ nameSql view ++ clause " WITH (" options ")"
    ++ clause " (" (columns.map Ident.sql) ")" ++ " AS " ++ (← g.query).sql

/-- Another name for an index, after the words `ALTER INDEX`. -/
def alterIndex : Parser String := do
  let index ← name
  unless ← keyword? "RENAME" do fail "RENAME after ALTER INDEX"
  unless ← keyword? "TO" do fail "TO after RENAME"
  return "ALTER INDEX " ++ nameSql index ++ " RENAME TO " ++ nameSql (← name)

/-- A change of a definition, after the word `ALTER`. -/
def alter (g : Grammar) : Parser String := do
  match ← oneOf ["VIEW", "TABLE", "INDEX", "ROLE"] with
  | "VIEW" => alterView g
  | "TABLE" => alterTable g
  | "INDEX" => alterIndex
  | _ => alterRole g

end QueryDrill.Sql.Parser
