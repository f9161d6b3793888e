import QueryDrill.Sql.Grammar.Creation
/-!
Statements that remove definitions, and statements that change rows: deletions, truncations and merges. They
are kept as text.
-/

namespace QueryDrill.Sql.Parser

open QueryDrill.Sql

/-! ## 1. Removals -/

/-- What `DROP FUNCTION` removes, after those words. -/
def dropFunction (g : Grammar) : Parser String := do
  let ifThere ← ifExists
  let functions ← commaSeparated (do
    let function ← name
    unless ← symbol? "(" do return nameSql function
    if ← symbol? ")" then return nameSql function
    let parameters ← commaSeparated (functionParameter g)
    symbol ")"
    return nameSql function ++ "(" ++ commaList parameters ++ ")")
  let rule := match ← oneOf? ["CASCADE", "RESTRICT"] with
    | some k => " " ++ k
    | none => ""
  return "DROP FUNCTION " ++ ifThere ++ commaList functions ++ rule

/-- What `DROP` removes, after that word. -/
def drop (g : Grammar) : Parser String := do
  let d ← dialect
  let temporary ← if d = .mysql || d = .generic then word? "TEMPORARY" else pure ""
  match ← oneOf? ["TABLE", "VIEW", "INDEX", "ROLE", "SCHEMA", "SEQUENCE", "STAGE", "FUNCTION"] with
  | none => fail "TABLE, VIEW, INDEX, ROLE, SCHEMA, FUNCTION, STAGE or SEQUENCE after DROP"
  | some "FUNCTION" => dropFunction g
  | some kind =>
    let ifThere ← ifExists
    let names ← commaSeparated name
    let ts ← get
    let cascade ← keyword? "CASCADE"
    let restrict ← keyword? "RESTRICT"
    let purge ← keyword? "PURGE"
    if cascade && restrict then refuseAt ts "Cannot specify both CASCADE and RESTRICT in DROP"
    if kind = "ROLE" && (cascade || restrict || purge) then
      refuseAt ts "Cannot specify CASCADE, RESTRICT, or PURGE in DROP ROLE"
    return "DROP " ++ temporary ++ kind ++ " " ++ ifThere ++ commaList (names.map nameSql)
      ++ (if cascade then " CASCADE" else "") ++ (if restrict then " RESTRICT" else "")
      ++ (if purge then " PURGE" else "")

/-- A deletion, after its opening word. -/
def delete (g : Grammar) : Parser String := do
  let tables ← do
    if ← keyword? "FROM" then pure []
    else
      let tables ← commaSeparated name
      keyword "FROM"
      pure tables
  let sources ← commaSeparated (fromItem g)
  let using' ← listClause ["USING"] (fromItem g)
  let selection ← clause? ["WHERE"] g.expr
  let returning ← listClause ["RETURNING"] (selectItem g)
  let keys ← orderBy? g
  let limit ← if ← keyword? "LIMIT" then do
      if ← keyword? "ALL" then pure none else some <$> g.expr
    else pure none
  return "DELETE " ++ clause "" (tables.map nameSql) " " ++ "FROM " ++ commaList (sqlSources sources)
    ++ clause " USING " (sqlSources using') "" ++ sqlOption " WHERE " selection ""
    ++ clause " RETURNING " (sqlItems returning) "" ++ clause " ORDER BY " (sqlKeys keys) ""
    ++ sqlOption " LIMIT " limit ""

/-- A truncation, after its opening word. -/
def truncate (g : Grammar) : Parser String := do
  let word ← word? "TABLE"
  let table ← name
  let partition ← if ← keyword? "PARTITION" then parenthesized (commaSeparated g.expr) else pure []
  return "TRUNCATE " ++ word ++ nameSql table ++ clause " PARTITION (" (sqlAll partition) ")"

/-! ## 2. Merges -/

/-- What a merge does with a row, after its condition. -/
def mergeAction (g : Grammar) (matched : Bool) : Parser String := do
  match ← oneOf? ["UPDATE", "INSERT", "DELETE"] with
  | some "UPDATE" =>
    unless matched do refuse "UPDATE in NOT MATCHED merge clause"
    keyword "SET"
    return "UPDATE SET " ++ (Expr.ofPieces (← assignments g)).sql
  | some "INSERT" =>
    if matched then refuse "INSERT in MATCHED merge clause"
    let columns ← columnList? ((← dialect) = .mysql)
    keyword "VALUES"
    return "INSERT (" ++ identList columns ++ ") " ++ (← values g).sql
  | some _ =>
    unless matched do refuse "DELETE in NOT MATCHED merge clause"
    return "DELETE"
  | none => refuse "expected UPDATE, DELETE or INSERT in merge clause"

/-- A clause of a merge. -/
def mergeClause (g : Grammar) : Parser String := do
  keyword "WHEN"
  let negated ← keyword? "NOT"
  keyword "MATCHED"
  let condition ← clause? ["AND"] g.expr
  keyword "THEN"
  return " WHEN " ++ (if negated then "NOT " else "") ++ "MATCHED" ++ sqlOption " AND " condition ""
    ++ " THEN " ++ (← mergeAction g !negated)

/-- A merge, after its opening word. -/
def merge (g : Grammar) : Parser String := do
  let into ← word? "INTO"
  let factor : Parser TableFactor := do tableFactor g ((← get).length + 1)
  let target ← factor
  keyword "USING"
  let source ← factor
  keyword "ON"
  let condition ← g.expr
  let clauses ← repeatWhile (fun clauses => do
    if (← peek?).isNone || (← peekSymbol ";") then return none
    return some ((← mergeClause g) :: clauses)) ([] : List String)
  let text := "MERGE " ++ into ++ target.sql ++ " USING " ++ source.sql ++ " ON " ++ condition.sql
  return if clauses.isEmpty then text ++ " " else text ++ String.join clauses.reverse

end QueryDrill.Sql.Parser
