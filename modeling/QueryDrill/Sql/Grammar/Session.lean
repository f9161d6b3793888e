import QueryDrill.Sql.Grammar.Creation
/-!
Statements about a session: transactions, settings, privileges and cursors. They are kept as text.
-/

namespace QueryDrill.Sql.Parser

open QueryDrill.Sql

/-! ## 1. Transactions -/

/-- The modes of a transaction. -/
def transactionModes : Parser String := do
  let mode? : Parser (Option String) := do
    if ← keywords? ["ISOLATION", "LEVEL"] then
      for words in [["READ", "UNCOMMITTED"], ["READ", "COMMITTED"], ["REPEATABLE", "READ"],
          ["SERIALIZABLE"]] do
        if ← keywords? words then return some ("ISOLATION LEVEL " ++ " ".intercalate words)
      fail "isolation level"
    if ← keywords? ["READ", "ONLY"] then return some "READ ONLY"
    if ← keywords? ["READ", "WRITE"] then return some "READ WRITE"
    return none
  let (modes, _) ← repeatWhile (fun (modes, required) => do
    match ← mode? with
    | some m =>
      let comma ← symbol? ","
      return some (m :: modes, comma)
    | none => if required then fail "transaction mode" else return none) (([] : List String), false)
  return clause " " modes.reverse ""

/-- What follows the word that ends a transaction. -/
def transactionChain : Parser String := do
  let _ ← oneOf? ["TRANSACTION", "WORK"]
  unless ← keyword? "AND" do return ""
  let negated ← keyword? "NO"
  keyword "CHAIN"
  return if negated then "" else " AND CHAIN"

/-- A statement of a transaction, after its opening word; nothing if the word opens none. -/
def transaction? (k : String) : Parser (Option String) := do
  match k with
  | "BEGIN" =>
    let d ← dialect
    let modifier := match ← (if d = .sqlite || d = .generic then
        oneOf? ["DEFERRED", "IMMEDIATE", "EXCLUSIVE"] else pure none) with
      | some m => " " ++ m
      | none => ""
    let _ ← oneOf? ["TRANSACTION", "WORK"]
    return some ("BEGIN" ++ modifier ++ " TRANSACTION" ++ (← transactionModes))
  | "START" =>
    keyword "TRANSACTION"
    return some ("START TRANSACTION" ++ (← transactionModes))
  | "COMMIT" | "END" => return some ("COMMIT" ++ (← transactionChain))
  | "ROLLBACK" =>
    let chain ← transactionChain
    unless ← keyword? "TO" do return some ("ROLLBACK" ++ chain)
    let _ ← keyword? "SAVEPOINT"
    return some ("ROLLBACK" ++ chain ++ " TO SAVEPOINT " ++ (← ident).sql)
  | "SAVEPOINT" => return some ("SAVEPOINT " ++ (← ident).sql)
  | "RELEASE" =>
    let _ ← keyword? "SAVEPOINT"
    return some ("RELEASE SAVEPOINT " ++ (← ident).sql)
  | _ => return none

/-! ## 2. Settings -/

/-- The value of a setting. -/
def settingValue (g : Grammar) (what : String) : Parser Expr := do
  match ← attemptReading g.expr with
  | some e => return e
  | none => fail what

/-- A setting, after the word `SET`. -/
def setting (g : Grammar) : Parser String := do
  let d ← dialect
  let modifier := (← oneOf? ["SESSION", "LOCAL", "HIVEVAR"]).getD ""
  if modifier = "HIVEVAR" then symbol ":"
  else if ← keyword? "ROLE" then
    let shown := if modifier = "" then "" else modifier ++ " "
    let role ← if ← keyword? "NONE" then pure "NONE" else Ident.sql <$> ident
    return "SET " ++ shown ++ "ROLE " ++ role
  let target ← if ← keywords? ["TIME", "ZONE"] then pure [⟨"TIMEZONE", none⟩] else name
  let text := nameSql target
  let isNamed (word : String) : Bool := String.ofList (text.toList.map Char.toUpper) == word
  let here := if modifier = "LOCAL" then "LOCAL " else ""
  if isNamed "NAMES" && (d = .mysql || d = .generic) then
    if ← keyword? "DEFAULT" then return "SET NAMES DEFAULT"
    let charset ← literalString
    let collation ← if ← keyword? "COLLATE" then do pure (" COLLATE " ++ (← literalString)) else pure ""
    return "SET NAMES " ++ charset ++ collation
  let assigned ← do if ← symbol? "=" then pure true else keyword? "TO"
  if assigned then
    let values ← commaSeparated (settingValue g "variable value")
    let owner := if modifier = "HIVEVAR" then "HIVEVAR:" else ""
    return "SET " ++ here ++ owner ++ text ++ " = " ++ commaList (sqlAll values)
  if isNamed "TIMEZONE" then
    return "SET " ++ here ++ "TIME ZONE " ++ (← settingValue g "timezone value").sql
  if text = "CHARACTERISTICS" then
    keywords ["AS", "TRANSACTION"]
    return "SET SESSION CHARACTERISTICS AS TRANSACTION" ++ (← transactionModes)
  if text = "TRANSACTION" && modifier = "" then
    if ← keyword? "SNAPSHOT" then return "SET TRANSACTION SNAPSHOT " ++ (← literal).sql
    return "SET TRANSACTION" ++ (← transactionModes)
  fail "equals sign or TO"

/-- What narrows a list that is shown, with a space before it; empty if nothing does. -/
def shownFilter (g : Grammar) : Parser String := do
  if ← keyword? "LIKE" then return " LIKE " ++ quoted '\'' (← literalString)
  if ← keyword? "ILIKE" then
    return " ILIKE " ++ String.ofList (quoteChars '\'' '\x00' (← literalString).toList)
  if ← keyword? "WHERE" then return " WHERE " ++ (← g.expr).sql
  return ""

/-- The words up to an equals sign or the end; what is no word is passed over. -/
def wordsToEquals : Parser (List Ident) := do
  let ts ← get
  let before := ts.takeWhile (· ≠ .symbol "=")
  set (ts.drop before.length)
  return before.filterMap fun
    | .word v q _ => some ⟨v, q⟩
    | _ => none

/-- What is shown, after the word `SHOW`. -/
def shown (g : Grammar) : Parser String := do
  let d ← dialect
  let extended ← word? "EXTENDED"
  let full ← word? "FULL"
  let session ← word? "SESSION"
  let global ← word? "GLOBAL"
  let source? : Parser Bool := do return (← oneOf? ["FROM", "IN"]).isSome
  if (← oneOf? ["COLUMNS", "FIELDS"]).isSome then
    unless ← source? do fail "one of FROM or IN"
    let table ← name
    let table ← if ← source? then do pure ((← ident) :: table) else pure table
    return "SHOW " ++ extended ++ full ++ "COLUMNS FROM " ++ nameSql table ++ (← shownFilter g)
  if ← keyword? "TABLES" then
    let source ← if ← source? then do pure (" FROM " ++ (← ident).sql) else pure ""
    return "SHOW " ++ extended ++ full ++ "TABLES" ++ source ++ (← shownFilter g)
  if ← keyword? "FUNCTIONS" then return "SHOW FUNCTIONS" ++ (← shownFilter g)
  if extended ≠ "" || full ≠ "" then
    refuse "EXTENDED/FULL are not supported with this type of SHOW query"
  if ← keyword? "CREATE" then
    let kind ← oneOf ["TABLE", "TRIGGER", "FUNCTION", "PROCEDURE", "EVENT", "VIEW"]
    return "SHOW CREATE " ++ kind ++ " " ++ nameSql (← name)
  if ← keyword? "COLLATION" then return "SHOW COLLATION" ++ (← shownFilter g)
  if ← keyword? "VARIABLES" then
    if d = .mysql || d = .generic then
      return "SHOW " ++ global ++ session ++ "VARIABLES" ++ (← shownFilter g)
  return "SHOW" ++ String.join ((← wordsToEquals).map fun i => " " ++ i.sql)

/-- The value of a pragma. -/
def pragmaValue : Parser String := do
  let ts ← get
  let value ← literal
  match value, ts with
  | .singleQuoted _, _ | .doubleQuoted _, _ | .number .., _ | _, .placeholder _ :: _ | _, .symbol _ :: _ =>
    return value.sql
  | _, _ => failAt ts "number or string or ? placeholder"

/-- A pragma, after its opening word. -/
def pragma : Parser String := do
  let setting ← name
  if ← symbol? "(" then
    let value ← pragmaValue
    symbol ")"
    return "PRAGMA " ++ nameSql setting ++ "(" ++ value ++ ")"
  if ← symbol? "=" then return "PRAGMA " ++ nameSql setting ++ " = " ++ (← pragmaValue)
  return "PRAGMA " ++ nameSql setting

/-! ## 3. Privileges -/

/-- A privilege. -/
def privilege : Parser String := do
  match ← oneOf? ["CONNECT", "CREATE", "DELETE", "EXECUTE", "INSERT", "REFERENCES", "SELECT", "TEMPORARY",
      "TRIGGER", "TRUNCATE", "UPDATE", "USAGE"] with
  | none => fail "a privilege keyword"
  | some k =>
    if ["INSERT", "REFERENCES", "SELECT", "UPDATE"].contains k then
      return k ++ clause " (" ((← columnList? false).map Ident.sql) ")"
    return k

/-- What privileges are on. -/
def privilegeObjects : Parser String := do
  let names : Parser String := do return commaList ((← commaSeparated name).map nameSql)
  for kind in ["TABLES", "SEQUENCES"] do
    if ← keywords? ["ALL", kind, "IN", "SCHEMA"] then
      return "ALL " ++ kind ++ " IN SCHEMA " ++ (← names)
  match ← oneOf? ["SEQUENCE", "SCHEMA", "TABLE"] with
  | some "SEQUENCE" => return "SEQUENCE " ++ (← names)
  | some "SCHEMA" => return "SCHEMA " ++ (← names)
  | _ => names

/-- Privileges and what they are on. -/
def privileges : Parser String := do
  let granted ← do
    if ← keyword? "ALL" then
      pure (if ← keyword? "PRIVILEGES" then "ALL PRIVILEGES" else "ALL")
    else do pure (commaList (← commaSeparated privilege))
  keyword "ON"
  return granted ++ " ON " ++ (← privilegeObjects)

/-- By whom privileges are given, with a space before it; empty if nothing is said. -/
def grantor : Parser String := do
  if ← keywords? ["GRANTED", "BY"] then return " GRANTED BY " ++ (← ident).sql else return ""

/-- A grant, after its opening word. -/
def grant : Parser String := do
  let what ← privileges
  keyword "TO"
  let grantees ← commaSeparated ident
  let option := if ← keywords? ["WITH", "GRANT", "OPTION"] then " WITH GRANT OPTION" else ""
  return "GRANT " ++ what ++ " TO " ++ identList grantees ++ option ++ (← grantor)

/-- A revocation, after its opening word. -/
def revoke : Parser String := do
  let what ← privileges
  keyword "FROM"
  let grantees ← commaSeparated ident
  let by' ← grantor
  let ts ← get
  let cascade ← keyword? "CASCADE"
  let restrict ← keyword? "RESTRICT"
  if cascade && restrict then refuseAt ts "Cannot specify both CASCADE and RESTRICT in REVOKE"
  return "REVOKE " ++ what ++ " FROM " ++ identList grantees ++ by'
    ++ (if cascade then " CASCADE" else " RESTRICT")

/-! ## 4. Other statements -/

/-- A comment on a table or a column, after its opening word. -/
def comment : Parser String := do
  let ifThere := if ← keywords? ["IF", "EXISTS"] then "IF EXISTS " else ""
  keyword "ON"
  let kind ← match ← oneOf? ["COLUMN", "TABLE"] with
    | some k => pure k
    | none => fail "comment object_type"
  let target ← name
  keyword "IS"
  let text ← if ← keyword? "NULL" then pure "NULL" else do pure ("'" ++ (← literalString) ++ "'")
  return "COMMENT " ++ ifThere ++ "ON " ++ kind ++ " " ++ nameSql target ++ " IS " ++ text

/-- The end of a connection or a query, after its opening word. -/
def kill : Parser String := do
  let kind ← oneOf? ["CONNECTION", "QUERY", "MUTATION"]
  let id ← wholeNumber
  if kind = some "MUTATION" && (← dialect) ≠ .generic then
    fail "Unsupported type for KILL, allowed: CONNECTION | QUERY"
  return "KILL " ++ (match kind with
    | some k => k ++ " "
    | none => "") ++ toString id

/-- A call of a procedure, after its opening word. -/
def procedureCall (g : Grammar) : Parser String := do
  let procedure ← name
  if ← peekSymbol "(" then return "CALL " ++ (← call g procedure).sql
  return "CALL " ++ nameSql procedure

/-- A prepared statement, after its opening word. -/
def prepare (g : Grammar) : Parser String := do
  let prepared ← ident
  let types ← if ← peekSymbol "(" then parenthesized (commaSeparated dataType) else pure []
  keyword "AS"
  return "PREPARE " ++ prepared.sql ++ " " ++ clause "(" (types.map DataType.text) ") " ++ "AS "
    ++ (← g.statement).sql

/-- The execution of a prepared statement, after its opening word. -/
def execute (g : Grammar) : Parser String := do
  let prepared ← ident
  let values ← if ← peekSymbol "(" then parenthesized (commaSeparated g.expr) else pure []
  return "EXECUTE " ++ prepared.sql ++ clause "(" (sqlAll values) ")"

/-- A cursor, after the word `DECLARE`. -/
def declareCursor (g : Grammar) : Parser String := do
  let cursor ← ident
  let binary ← word? "BINARY"
  let sensitive := match ← oneOf? ["INSENSITIVE", "ASENSITIVE"] with
    | some k => k ++ " "
    | none => ""
  let scroll ← do
    if ← keyword? "SCROLL" then pure "SCROLL "
    else if ← keywords? ["NO", "SCROLL"] then pure "NO SCROLL "
    else pure ""
  keyword "CURSOR"
  let hold ← match ← oneOf? ["WITH", "WITHOUT"] with
    | some k => do
      keyword "HOLD"
      pure (k ++ " HOLD ")
    | none => pure ""
  keyword "FOR"
  return "DECLARE " ++ cursor.sql ++ " " ++ binary ++ sensitive ++ scroll ++ "CURSOR " ++ hold ++ "FOR "
    ++ (← g.query).sql

/-- Which rows of a cursor are read. -/
def fetchDirection : Parser String := do
  match ← oneOf? ["NEXT", "PRIOR", "FIRST", "LAST", "ALL", "ABSOLUTE", "RELATIVE", "FORWARD", "BACKWARD"] with
  | none => numberLiteral
  | some k =>
    if ["NEXT", "PRIOR", "FIRST", "LAST", "ALL"].contains k then return k
    if k = "FORWARD" || k = "BACKWARD" then
      if ← keyword? "ALL" then return k ++ " ALL"
    return k ++ " " ++ (← numberLiteral)

/-- Rows of a cursor, after the word `FETCH`. -/
def fetchRows : Parser String := do
  let direction ← fetchDirection
  let _ ← oneOf ["FROM", "IN"]
  let cursor ← ident
  let target ← if ← keyword? "INTO" then do pure (" INTO " ++ nameSql (← name)) else pure ""
  return "FETCH " ++ direction ++ " IN " ++ cursor.sql ++ target

/-- What a session gives up, after the word `DISCARD`. -/
def discard : Parser String := do
  match ← oneOf? ["ALL", "PLANS", "SEQUENCES", "TEMP", "TEMPORARY"] with
  | some "TEMPORARY" => return "DISCARD TEMP"
  | some k => return "DISCARD " ++ k
  | none => fail "ALL, PLANS, SEQUENCES, TEMP or TEMPORARY after DISCARD"

/-- A statement about a session, after its opening word; nothing if the word opens none. -/
def session? (g : Grammar) (k : String) : Parser (Option String) := do
  match k with
  | "SET" => return some (← setting g)
  | "SHOW" => return some (← shown g)
  | "PRAGMA" => return some (← pragma)
  | "GRANT" => return some (← grant)
  | "REVOKE" => return some (← revoke)
  | "KILL" => return some (← kill)
  | "CALL" => return some (← procedureCall g)
  | "PREPARE" => return some (← prepare g)
  | "EXECUTE" => return some (← execute g)
  | "DEALLOCATE" =>
    let word ← word? "PREPARE"
    return some ("DEALLOCATE " ++ word ++ (← ident).sql)
  | "DECLARE" => return some (← declareCursor g)
  | "FETCH" => return some (← fetchRows)
  | "CLOSE" =>
    if ← keyword? "ALL" then return some "CLOSE ALL" else return some ("CLOSE " ++ (← ident).sql)
  | "DISCARD" => return some (← discard)
  | "ASSERT" =>
    let condition ← g.expr
    return some ("ASSERT " ++ condition.sql ++ sqlOption " AS " (← clause? ["AS"] g.expr) "")
  | "ATTACH" =>
    let word ← word? "DATABASE"
    let file ← g.expr
    keyword "AS"
    return some ("ATTACH " ++ word ++ file.sql ++ " AS " ++ (← ident).sql)
  | "COMMENT" => if (← dialect) = .postgres then return some (← comment) else return none
  | k => transaction? k

end QueryDrill.Sql.Parser
