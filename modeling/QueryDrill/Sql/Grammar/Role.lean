import QueryDrill.Sql.Grammar.Definition
/-!
Roles and their options.

A role that is made takes each option once, and its text lists them in an order of its own. A role that is
changed takes a list of options as it is given. Only one dialect knows the options.
-/

namespace QueryDrill.Sql.Parser

open QueryDrill.Sql

/-! ## 1. Options -/

/-- The options that are switched on by a word and off by the word with `NO` before it, in the order in which
a new role lists them. -/
def roleSwitches : List String :=
  ["SUPERUSER", "CREATEDB", "CREATEROLE", "INHERIT", "LOGIN", "REPLICATION", "BYPASSRLS"]

/-- The name and the text of a switch that comes next. -/
def roleSwitch? : Parser (Option (String × String)) := do
  for switch in roleSwitches do
    if ← keyword? switch then return some (switch ++ " or NO" ++ switch, switch)
    if ← keyword? ("NO" ++ switch) then return some (switch ++ " or NO" ++ switch, "NO" ++ switch)
  return none

/-- A password, after its word. -/
def password : Parser String := do
  if ← keyword? "NULL" then return "PASSWORD NULL" else return "PASSWORD " ++ (← literal).sql

/-- The number of connections, after its words. -/
def connectionLimit : Parser String := do return "CONNECTION LIMIT " ++ (← numberLiteral)

/-- The end of a password, after its words. -/
def validUntil : Parser String := do return "VALID UNTIL " ++ (← literal).sql

/-! ## 2. New roles -/

/-- The names of the options of a new role, in the order in which its text lists them. -/
def roleOptionNames : List String :=
  roleSwitches.map (fun switch => switch ++ " or NO" ++ switch)
    ++ ["CONNECTION LIMIT", "PASSWORD", "VALID UNTIL", "IN ROLE", "IN GROUP", "ROLE", "USER", "ADMIN"]

/-- The name of the next option of a new role, and what reads the rest of it. -/
def newRoleOption? : Parser (Option (String × Parser String)) := do
  let members (word : String) : String × Parser String :=
    (word, do return word ++ " " ++ identList (← commaSeparated ident))
  if let some (called, text) ← roleSwitch? then return some (called, pure text)
  match ← oneOf? ["PASSWORD", "CONNECTION", "VALID", "IN", "ROLE", "ADMIN", "USER"] with
  | some "PASSWORD" => return some ("PASSWORD", password)
  | some "CONNECTION" =>
    keyword "LIMIT"
    return some ("CONNECTION LIMIT", connectionLimit)
  | some "VALID" =>
    keyword "UNTIL"
    return some ("VALID UNTIL", validUntil)
  | some "IN" =>
    if ← keyword? "ROLE" then return some (members "IN ROLE")
    if ← keyword? "GROUP" then return some (members "IN GROUP")
    fail "ROLE or GROUP after IN"
  | some k => return some (members k)
  | none => return none

/-- A role, after the words `CREATE ROLE`. -/
def createRole : Parser String := do
  let d ← dialect
  let unlessThere ← unlessExists
  let names ← commaSeparated name
  let _ ← keyword? "WITH"
  let options ← repeatWhile (fun options => do
    unless d = .postgres do return none
    let start ← get
    match ← newRoleOption? with
    | none => return none
    | some (called, option) =>
      if (options.lookup called).isSome then refuseAt start ("Found multiple " ++ called)
      return some ((called, ← option) :: options)) ([] : List (String × String))
  return "CREATE ROLE " ++ unlessThere ++ commaList (names.map nameSql)
    ++ String.join ((roleOptionNames.filterMap fun called => options.lookup called).map (" " ++ ·))

/-! ## 3. Changes of roles -/

/-- An option of a role that is changed. -/
def roleOption : Parser String := do
  if let some (_, text) ← roleSwitch? then return text
  if ← keyword? "CONNECTION" then
    keyword "LIMIT"
    return ← connectionLimit
  if ← keyword? "PASSWORD" then return ← password
  if ← keyword? "VALID" then
    keyword "UNTIL"
    return ← validUntil
  fail "option"

/-- A change of a role, after the words `ALTER ROLE`. -/
def alterRole (g : Grammar) : Parser String := do
  unless (← dialect) = .postgres do
    refuse "ALTER ROLE is only support for PostgreSqlDialect, MsSqlDialect"
  let opening := "ALTER ROLE " ++ (← ident).sql ++ " "
  let database ← if ← keywords? ["IN", "DATABASE"] then attemptReading name else pure none
  let place := match database with
    | some n => "IN DATABASE " ++ nameSql n ++ " "
    | none => ""
  if ← keyword? "RENAME" then
    unless ← keyword? "TO" do fail "TO after RENAME"
    return opening ++ "RENAME TO " ++ (← ident).sql
  if ← keyword? "SET" then
    let setting := opening ++ place ++ "SET " ++ nameSql (← name)
    if ← keywords? ["FROM", "CURRENT"] then return setting ++ " FROM CURRENT"
    let assigned ← do if ← symbol? "=" then pure true else keyword? "TO"
    unless assigned do fail "'TO' or '=' or 'FROM CURRENT'"
    if ← keyword? "DEFAULT" then return setting ++ " TO DEFAULT"
    match ← attemptReading g.expr with
    | some e => return setting ++ " TO " ++ e.sql
    | none => fail "config value"
  if ← keyword? "RESET" then
    if ← keyword? "ALL" then return opening ++ place ++ "RESET ALL"
    return opening ++ place ++ "RESET " ++ nameSql (← name)
  let _ ← keyword? "WITH"
  let options ← repeatWhile (fun options => do
    return (← attempt roleOption).map (· :: options)) ([] : List String)
  if options.isEmpty then fail "option"
  return opening ++ "WITH " ++ " ".intercalate options.reverse

end QueryDrill.Sql.Parser
