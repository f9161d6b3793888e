import QueryDrill.Sql.Grammar.Definition
import QueryDrill.Sql.Grammar.Role
/-!
What `CREATE` makes. Tables are kept as syntax; views, indexes, functions, roles and the other things are kept
as text.
-/

namespace QueryDrill.Sql.Parser

open QueryDrill.Sql

/-! ## 1. Views and indexes -/

/-- A column of a view, with its options. -/
def viewColumn (g : Grammar) : Parser String := do
  let column ← ident
  unless (← dialect) = .generic && (← peekKeyword) = "OPTIONS" do return column.sql
  return column.sql ++ " OPTIONS(" ++ commaList (← options? g "OPTIONS") ++ ")"

/-- A view definition, at the word `VIEW` or the one before it. -/
def createView (g : Grammar) (words temporary : String) : Parser String := do
  let d ← dialect
  let materialized ← word? "MATERIALIZED"
  keyword "VIEW"
  let unlessThere ← if d = .sqlite || d = .generic then unlessExists else pure ""
  let view ← name
  let columns ← do
    if !(← symbol? "(") then pure []
    else if ← symbol? ")" then pure []
    else
      let columns ← commaSeparated (viewColumn g)
      symbol ")"
      pure columns
  let withOptions ← options? g "WITH"
  let cluster ← if ← keyword? "CLUSTER" then do
      keyword "BY"
      columnList? false
    else pure []
  let options ← if d = .generic then options? g "OPTIONS" else pure []
  let withOptions := if options.isEmpty then withOptions else []
  keyword "AS"
  let q ← g.query
  let binding ← if d = .generic then keywords? ["WITH", "NO", "SCHEMA", "BINDING"] else pure false
  return "CREATE " ++ words ++ materialized ++ temporary ++ "VIEW " ++ unlessThere ++ nameSql view
    ++ clause " (" columns ")" ++ clause " WITH (" withOptions ")"
    ++ clause " CLUSTER BY (" (cluster.map Ident.sql) ")" ++ clause " OPTIONS(" options ")" ++ " AS " ++ q.sql
    ++ (if binding then " WITH NO SCHEMA BINDING" else "")

/-- An index definition, after the word `INDEX`. -/
def createIndex (g : Grammar) (unique : String) : Parser String := do
  let concurrently ← word? "CONCURRENTLY"
  let unlessThere ← unlessExists
  let index ← do
    if unlessThere = "" then
      if ← keyword? "ON" then pure none else some <$> name
    else some <$> name
  if index.isSome then keyword "ON"
  let table ← name
  let method ← clause? ["USING"] ident
  let keys ← parenthesized (commaSeparated (sortKey g))
  let included ← if ← keyword? "INCLUDE" then parenthesized (commaSeparated ident) else pure []
  let nulls ← if ← keyword? "NULLS" then do
      let negated ← keyword? "NOT"
      keyword "DISTINCT"
      pure (if negated then " NULLS NOT DISTINCT" else " NULLS DISTINCT")
    else pure ""
  let condition ← clause? ["WHERE"] g.expr
  return "CREATE " ++ unique ++ "INDEX " ++ concurrently ++ unlessThere
    ++ (match index with
      | some n => nameSql n ++ " "
      | none => "")
    ++ "ON " ++ nameSql table
    ++ (match method with
      | some m => " USING " ++ m.sql ++ " "
      | none => "")
    ++ "(" ++ ",".intercalate (sqlKeys keys) ++ ")"
    ++ (if included.isEmpty then "" else " INCLUDE (" ++ ",".intercalate (included.map Ident.sql) ++ ")")
    ++ nulls ++ sqlOption " WHERE " condition ""

/-! ## 2. Schemas, sequences, extensions and types -/

/-- A schema definition, after the word `SCHEMA`. -/
def createSchema : Parser String := do
  let unlessThere ← unlessExists
  if ← keyword? "AUTHORIZATION" then
    return "CREATE SCHEMA " ++ unlessThere ++ "AUTHORIZATION " ++ (← ident).sql
  let schema ← name
  let owner ← clause? ["AUTHORIZATION"] ident
  return "CREATE SCHEMA " ++ unlessThere ++ nameSql schema ++ match owner with
    | some o => " AUTHORIZATION " ++ o.sql
    | none => ""

/-- A sequence definition, after the word `SEQUENCE`. -/
def createSequence (temporary : String) : Parser String := do
  let unlessThere ← unlessExists
  let sequence ← name
  let type ← if ← keyword? "AS" then do pure (" AS " ++ (← dataType).text) else pure ""
  let options ← sequenceOptions
  let owner ← do
    if ← keywords? ["OWNED", "BY", "NONE"] then pure " OWNED BY NONE"
    else if ← keywords? ["OWNED", "BY"] then pure (" OWNED BY " ++ nameSql (← name))
    else pure ""
  return "CREATE " ++ temporary ++ "SEQUENCE " ++ unlessThere ++ nameSql sequence ++ type ++ options ++ owner

/-- An extension, after the word `EXTENSION`. -/
def createExtension : Parser String := do
  let unlessThere ← unlessExists
  let extension ← ident
  let options ← do
    if ← keyword? "WITH" then
      let schema ← if ← keyword? "SCHEMA" then do pure (" SCHEMA " ++ (← ident).sql) else pure ""
      let version ← if ← keyword? "VERSION" then do pure (" VERSION " ++ (← ident).sql) else pure ""
      let cascade := if ← keyword? "CASCADE" then " CASCADE" else ""
      pure (schema ++ version ++ cascade)
    else pure ""
  return "CREATE EXTENSION " ++ unlessThere ++ extension.sql
    ++ (if options = "" then "" else " WITH" ++ options)

/-- An attribute of a type definition. -/
def typeAttribute : Parser String := do
  let field ← ident
  let type ← dataType
  let collation ← if ← keyword? "COLLATE" then do pure (" COLLATE " ++ nameSql (← name)) else pure ""
  return field.sql ++ " " ++ type.text ++ collation

/-- A type definition, after the word `TYPE`. A comma may end its attributes. -/
def createType : Parser String := do
  let typeName ← name
  keyword "AS"
  let written (attributes : List String) : String :=
    "CREATE TYPE " ++ nameSql typeName ++ " AS (" ++ commaList attributes ++ ")"
  unless ← symbol? "(" do return written []
  if ← symbol? ")" then return written []
  let (attributes, _) ← repeatWhile (fun (attributes, done) => do
    if done then return none
    let field ← typeAttribute
    let comma ← symbol? ","
    if ← symbol? ")" then return some (field :: attributes, true)
    unless comma do fail "',' or ')' after attribute definition"
    return some (field :: attributes, false)) (([] : List String), false)
  return written attributes.reverse

/-- A virtual table, after the word `VIRTUAL`. -/
def createVirtualTable : Parser String := do
  keyword "TABLE"
  let unlessThere ← unlessExists
  let table ← name
  keyword "USING"
  let module ← ident
  let arguments ← columnList? false
  return "CREATE VIRTUAL TABLE " ++ unlessThere ++ nameSql table ++ " USING " ++ module.sql
    ++ clause " (" (arguments.map Ident.sql) ")"

/-- A database, after the word `DATABASE`. A place that is given again replaces the first one. -/
def createDatabase : Parser String := do
  let unlessThere ← unlessExists
  let database ← name
  let (place, managed) ← repeatWhile (fun (place, managed) => do
    match ← oneOf? ["LOCATION", "MANAGEDLOCATION"] with
    | some "LOCATION" => return some (" LOCATION '" ++ (← literalString) ++ "'", managed)
    | some _ => return some (place, " MANAGEDLOCATION '" ++ (← literalString) ++ "'")
    | none => return none) ("", "")
  return "CREATE DATABASE " ++ unlessThere ++ nameSql database ++ place ++ managed

/-! ## 3. Functions, macros and procedures -/

/-- A parameter of a function: its name may be left out. -/
def functionParameter (g : Grammar) : Parser String := do
  let mode := match ← oneOf? ["IN", "OUT", "INOUT"] with
    | some k => k ++ " "
    | none => ""
  let ts ← get
  let first ← dataType
  let (named, type) ← do
    if first.kind = .unknown then
      match ts.head?.bind identOf? with
      | some i => do pure (i.sql ++ " ", (← dataType).text)
      | none => pure ("", first.text)
    else pure ("", first.text)
  let hasDefault ← do if ← keyword? "DEFAULT" then pure true else symbol? "="
  let default ← if hasDefault then do pure (" = " ++ (← g.expr).sql) else pure ""
  return mode ++ named ++ type ++ default

/-- The details of a function, each of which may be given once: language, behaviour, definition and
result. -/
def functionDetails (g : Grammar) : Parser (List String) := do
  let once (position : Nat) (word : String) (detail : Parser String) (details : List String) :
      Parser (Option (List String)) := do
    if details.getD position "" ≠ "" then refuse (word ++ " specified more than once")
    return some (details.set position (← detail))
  let definition : Parser String := do
    match ← get with
    | .dollarQuoted _ s :: ts =>
      set ts
      return " AS $$" ++ s ++ "$$"
    | _ => return " AS '" ++ (← literalString) ++ "'"
  repeatWhile (fun details => do
    match ← oneOf? ["AS", "LANGUAGE", "IMMUTABLE", "STABLE", "VOLATILE", "RETURN"] with
    | some "AS" => once 2 "AS" definition details
    | some "LANGUAGE" => once 0 "LANGUAGE" (do return " LANGUAGE " ++ (← ident).sql) details
    | some "RETURN" => once 3 "RETURN" (do return " RETURN " ++ (← g.expr).sql) details
    | some k => once 1 "IMMUTABLE | STABLE | VOLATILE" (pure (" " ++ k)) details
    | none => return none) (List.replicate 4 "")

/-- A function definition, after the word `FUNCTION`. -/
def createFunction (g : Grammar) (words : String) : Parser String := do
  let function ← name
  symbol "("
  let parameters ← if ← peekSymbol ")" then pure [] else commaSeparated (functionParameter g)
  symbol ")"
  let result ← if ← keyword? "RETURNS" then do pure (" RETURNS " ++ (← dataType).text) else pure ""
  return "CREATE " ++ words ++ "FUNCTION " ++ nameSql function ++ clause "(" parameters ")" ++ result
    ++ String.join (← functionDetails g)

/-- A macro definition, after the word `MACRO`. -/
def createMacro (g : Grammar) (words : String) : Parser String := do
  let parameter : Parser String := do
    let label ← ident
    let hasDefault ← do if ← symbol? ":=" then pure true else symbol? "=>"
    if hasDefault then return label.sql ++ " := " ++ (← g.expr).sql else return label.sql
  let called ← name
  symbol "("
  let parameters ← if ← peekSymbol ")" then pure [] else commaSeparated parameter
  symbol ")"
  keyword "AS"
  let definition ← if ← keyword? "TABLE" then do pure ("TABLE " ++ (← g.query).sql) else Expr.sql <$> g.expr
  return "CREATE " ++ words ++ "MACRO " ++ nameSql called ++ clause "(" parameters ")" ++ " AS " ++ definition

/-- The parameters of a procedure. A comma may end them, and between two commas there may be none. -/
def procedureParameters : Parser (List String) := do
  unless ← symbol? "(" do return []
  if ← symbol? ")" then return []
  let (parameters, _) ← repeatWhile (fun (parameters, done) => do
    if done then return none
    let parameters ← do
      match ← peek? with
      | some (.word ..) =>
        let label ← ident
        pure ((label.sql ++ " " ++ (← dataType).text) :: parameters)
      | _ => pure parameters
    let comma ← symbol? ","
    if ← symbol? ")" then return some (parameters, true)
    unless comma do fail "',' or ')' after parameter definition"
    return some (parameters, false)) (([] : List String), false)
  return parameters.reverse

/-- A procedure definition, after the word `PROCEDURE`. -/
def createProcedure (g : Grammar) (words : String) : Parser String := do
  let procedure ← name
  let parameters ← procedureParameters
  keywords ["AS", "BEGIN"]
  let body ← statementList g.statement
  keyword "END"
  return "CREATE " ++ words ++ "PROCEDURE " ++ nameSql procedure ++ clause " (" parameters ")" ++ " AS BEGIN "
    ++ "; ".intercalate (body.map Statement.sql) ++ " END"

/-! ## 4. Creations -/

/-- What `CREATE` makes, after that word. -/
def create (g : Grammar) : Parser Statement := do
  let d ← dialect
  let replaces ← keywords? ["OR", "REPLACE"]
  let alters ← keywords? ["OR", "ALTER"]
  let isLocal ← keyword? "LOCAL"
  let isGlobal ← keyword? "GLOBAL"
  let transient ← word? "TRANSIENT"
  let temporary := if (← oneOf? ["TEMP", "TEMPORARY"]).isSome then "TEMPORARY " else ""
  let replace := if replaces then "OR REPLACE " else ""
  let scope := if isGlobal then "GLOBAL " else if isLocal then "LOCAL " else ""
  if ← keyword? "TABLE" then
    return .createTable (← createTable g (replace ++ scope ++ temporary ++ transient))
  if ["MATERIALIZED", "VIEW"].contains (← peekKeyword) then
    return .other (← createView g replace temporary)
  if ← keyword? "EXTERNAL" then
    keyword "TABLE"
    return .createTable (← createExternalTable g (replace ++ "EXTERNAL "))
  if (← peekKeyword) = "FUNCTION" then
    unless d = .postgres do fail "an object type after CREATE"
    keyword "FUNCTION"
    return .other (← createFunction g (replace ++ temporary))
  if (← peekKeyword) = "MACRO" then
    unless d = .generic do fail "an object type after CREATE"
    keyword "MACRO"
    return .other (← createMacro g (replace ++ temporary))
  if replaces then fail "[EXTERNAL] TABLE or [MATERIALIZED] VIEW or FUNCTION after CREATE OR REPLACE"
  if ← keyword? "EXTENSION" then return .other (← createExtension)
  if ← keyword? "INDEX" then return .other (← createIndex g "")
  if ← keywords? ["UNIQUE", "INDEX"] then return .other (← createIndex g "UNIQUE ")
  if ← keyword? "VIRTUAL" then return .other (← createVirtualTable)
  if ← keyword? "SCHEMA" then return .other (← createSchema)
  if ← keyword? "DATABASE" then return .other (← createDatabase)
  if ← keyword? "ROLE" then return .other (← createRole)
  if ← keyword? "SEQUENCE" then return .other (← createSequence temporary)
  if ← keyword? "TYPE" then return .other (← createType)
  if ← keyword? "PROCEDURE" then
    return .other (← createProcedure g (if alters then "OR ALTER " else ""))
  fail "an object type after CREATE"

end QueryDrill.Sql.Parser
