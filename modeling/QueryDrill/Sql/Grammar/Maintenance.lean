import QueryDrill.Sql.Grammar.Creation
/-!
Statements that look after a server and its tables: logs, caches, locks and statistics. They are kept as text.
-/

namespace QueryDrill.Sql.Parser

open QueryDrill.Sql

/-! ## 1. Logs and caches -/

/-- The tables that are written out, and how. Words without a meaning are passed over, and the first token that
is no word ends the statement and is read too. -/
def flushedTables : Parser String := do
  let (tables, locked, exported, _) ← repeatWhile (fun (tables, locked, exported, done) => do
    if done then return none
    match ← get with
    | .word _ _ "" :: _ =>
      let names ← commaSeparated name
      return some (" " ++ commaList (names.map nameSql), locked, exported, false)
    | .word _ _ k :: ts =>
      set ts
      if k = "WITH" then return some (tables, ← keywords? ["READ", "LOCK"], exported, false)
      if k = "FOR" then return some (tables, locked, ← keyword? "EXPORT", false)
      return some (tables, locked, exported, false)
    | ts =>
      set (ts.drop 1)
      return some (tables, locked, exported, true)) ("", false, false, false)
  return tables ++ (if locked then " WITH READ LOCK" else "") ++ (if exported then " FOR EXPORT" else "")

/-- What is written out or forgotten, after the word `FLUSH`. -/
def flush : Parser String := do
  let d ← dialect
  unless d = .mysql || d = .generic do refuseAt (← get) "Unsupported statement FLUSH"
  let place := match ← oneOf? ["NO_WRITE_TO_BINLOG", "LOCAL"] with
    | some k => k ++ " "
    | none => ""
  let opening := "FLUSH " ++ place
  for words in [["BINARY", "LOGS"], ["ENGINE", "LOGS"], ["ERROR", "LOGS"], ["GENERAL", "LOGS"], ["HOSTS"],
      ["PRIVILEGES"], ["OPTIMIZER_COSTS"], ["SLOW", "LOGS"], ["STATUS"], ["USER_RESOURCES"], ["LOGS"]] do
    if ← keywords? words then return opening ++ " ".intercalate words
  if ← keywords? ["RELAY", "LOGS"] then
    let channel ← if ← keywords? ["FOR", "CHANNEL"] then do pure (" FOR CHANNEL " ++ nameSql (← name)) else pure ""
    return opening ++ "RELAY LOGS" ++ channel
  if ← keyword? "TABLES" then return opening ++ "TABLES" ++ (← flushedTables)
  fail ("BINARY LOGS, ENGINE LOGS, ERROR LOGS, GENERAL LOGS, HOSTS, LOGS, PRIVILEGES, OPTIMIZER_COSTS,"
    ++ "RELAY LOGS [FOR CHANNEL channel], SLOW LOGS, STATUS, USER_RESOURCES")

/-- What a cached table holds, up to the end of the text. -/
def cachedQuery (g : Grammar) : Parser String := do
  match ← peek? with
  | none => return ""
  | some (.word ..) =>
    let word := if ← keyword? "AS" then " AS " else " "
    return word ++ (← g.query).sql
  | some _ => fail "a QUERY statement"

/-- A table that is cached, after the word `CACHE`. -/
def cacheTable (g : Grammar) : Parser String := do
  let hasTable ← keyword? "TABLE"
  let flag ← do
    if hasTable then pure ""
    else
      let start ← get
      let flag ← name
      unless ← keyword? "TABLE" do
        if (← get).isEmpty then set (start.drop (start.length - 1))
        fail "a `TABLE` keyword"
      pure (nameSql flag ++ " ")
  let table ← name
  let options ← options? g "OPTIONS"
  return "CACHE " ++ flag ++ "TABLE " ++ nameSql table ++ clause " OPTIONS(" options ")" ++ (← cachedQuery g)

/-- A table that is no longer cached, after the word `UNCACHE`. -/
def uncacheTable : Parser String := do
  keyword "TABLE"
  let ifThere ← ifExists
  return "UNCACHE TABLE " ++ ifThere ++ nameSql (← name)

/-! ## 2. Locks -/

/-- A table that is locked. -/
def tableLock : Parser String := do
  let table ← ident
  let label := match ← label? ["READ", "WRITE", "LOW_PRIORITY"] with
    | some a => "AS " ++ a.sql ++ " "
    | none => ""
  let kind ← do
    if ← keyword? "READ" then pure (if ← keyword? "LOCAL" then "READ LOCAL" else "READ")
    else if ← keyword? "WRITE" then pure "WRITE"
    else if ← keywords? ["LOW_PRIORITY", "WRITE"] then pure "LOW_PRIORITY WRITE"
    else fail "an lock type in LOCK TABLES"
  return table.sql ++ " " ++ label ++ kind

/-- Tables that are locked, or the end of all locks, at the opening word; nothing if no such statement is
there. -/
def tableLocks? : Parser (Option String) := do
  unless (← dialect) = .mysql do return none
  if ← keywords? ["LOCK", "TABLES"] then return some ("LOCK TABLES " ++ commaList (← commaSeparated tableLock))
  if ← keywords? ["UNLOCK", "TABLES"] then return some "UNLOCK TABLES"
  return none

/-! ## 3. Statistics and repairs -/

/-- The details of an analysis, each with its place in the text. -/
def analysisDetails (g : Grammar) : Parser (List String) :=
  repeatWhile (fun details => do
    match ← oneOf? ["PARTITION", "FOR", "CACHE", "NOSCAN", "COMPUTE"] with
    | some "PARTITION" =>
      let partitions ← parenthesized (commaSeparated g.expr)
      return some (details.set 0 (" PARTITION (" ++ commaList (sqlAll partitions) ++ ")"))
    | some "COMPUTE" =>
      keyword "STATISTICS"
      return some (details.set 1 " COMPUTE STATISTICS")
    | some "NOSCAN" => return some (details.set 2 " NOSCAN")
    | some "CACHE" =>
      keyword "METADATA"
      return some (details.set 3 " CACHE METADATA")
    | some _ =>
      keyword "COLUMNS"
      let columns := (← attempt (commaSeparated ident)).getD []
      return some (details.set 4 (" FOR COLUMNS" ++ clause " " (columns.map Ident.sql) ""))
    | none => return none) (List.replicate 5 "")

/-- An analysis of a table, after the word `ANALYZE`. -/
def analyze (g : Grammar) : Parser String := do
  keyword "TABLE"
  let table ← name
  return "ANALYZE TABLE " ++ nameSql table ++ String.join (← analysisDetails g)

/-- A check of the partitions of a table, after the word `MSCK`. -/
def checkPartitions : Parser String := do
  let repair ← word? "REPAIR"
  keyword "TABLE"
  let table ← name
  let action ← attempt (do
    let action ← oneOf? ["ADD", "DROP", "SYNC"]
    keyword "PARTITIONS"
    return match action with
      | some k => " " ++ k ++ " PARTITIONS"
      | none => "")
  return "MSCK " ++ repair ++ "TABLE " ++ nameSql table ++ action.getD ""

/-- A statement of this module, after its opening word; nothing if the word opens none. -/
def maintenance? (g : Grammar) (k : String) : Parser (Option String) := do
  match k with
  | "FLUSH" => return some (← flush)
  | "CACHE" => return some (← cacheTable g)
  | "UNCACHE" => return some (← uncacheTable)
  | "ANALYZE" => return some (← analyze g)
  | "MSCK" => return some (← checkPartitions)
  | _ => return none

end QueryDrill.Sql.Parser
