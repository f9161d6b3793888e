import QueryDrill.Sql.Grammar.Alteration
import QueryDrill.Sql.Grammar.Copy
import QueryDrill.Sql.Grammar.Maintenance
import QueryDrill.Sql.Grammar.Session
/-!
Statements, and the grammar as a whole.

Queries, insertions and table definitions are kept as syntax, other statements as their text.
`grammarAt` ties the parsers together: each level of nesting uses the grammar of one level less, and
level zero refuses everything.
-/

namespace QueryDrill.Sql

namespace Parser

/-! ## 1. Statements that are kept as text -/

/-- The statement that `EXPLAIN` or `DESCRIBE` is about. -/
def explain (g : Grammar) (word : String) : Parser String := do
  let analyze ← word? "ANALYZE"
  let verbose ← word? "VERBOSE"
  let format ← if ← keyword? "FORMAT" then do
      match ← oneOf? ["TEXT", "GRAPHVIZ", "JSON"] with
      | some k => pure ("FORMAT " ++ k ++ " ")
      | none => failReading "fileformat"
    else pure ""
  match ← attempt g.statement with
  | some (.other text) =>
    if text.startsWith "EXPLAIN" || text.startsWith "DESCRIBE" then
      refuse "Explain must be root of the plan"
    return word ++ " " ++ analyze ++ verbose ++ format ++ text
  | some s => return word ++ " " ++ analyze ++ verbose ++ format ++ s.sql
  | none => return word ++ " " ++ nameSql (← name)

/-- A statement of the kinds that are kept as text, after its opening word. -/
def textStatement? (g : Grammar) (k : String) : Parser (Option String) := do
  match k with
  | "DROP" => return some (← drop g)
  | "DELETE" => return some (← delete g)
  | "UPDATE" => return some (← update g).sql
  | "ALTER" => return some (← alter g)
  | "TRUNCATE" => return some (← truncate g)
  | "MERGE" => return some (← merge g)
  | "COPY" => return some (← copy g)
  | "EXPLAIN" => return some (← explain g "EXPLAIN")
  | "DESCRIBE" => return some (← explain g "DESCRIBE")
  | "USE" => return some ("USE " ++ (← ident).sql)
  | k =>
    if let some text ← maintenance? g k then return some text
    session? g k

/-! ## 2. Statements -/

/-- An insertion, after its opening word. -/
def insert (g : Grammar) : Parser Statement := do
  match ← insertion g with
  | .inl i => return .insert i
  | .inr (words, q) => return .other (words ++ q.sql)

/-- A replacement of rows, after its opening word. -/
def replacement (g : Grammar) : Parser Statement := do
  match ← dialect with
  | .mysql | .generic =>
    match ← insert g with
    | .insert i => return .insert { i with verb := "REPLACE" ++ i.verb.drop "INSERT".length }
    | s => return s
  | .sqlite => insert g
  | .postgres => do refuseAt (← get) "Unsupported statement REPLACE"

/-- A statement. -/
def statement (g : Grammar) : Parser Statement := do
  if let some text ← tableLocks? then return .other text
  let start ← get
  match ← next? with
  | some (.word _ _ k) =>
    if ["SELECT", "WITH", "VALUES"].contains k then
      set start
      return .query (← g.query)
    if k = "CREATE" then return ← create g
    if k = "INSERT" then return ← insert g
    if k = "REPLACE" then
      if (← dialect) = .sqlite then
        set start
      return ← replacement g
    match ← textStatement? g k with
    | some text => return .other text
    | none => failAt start "an SQL statement"
  | some (.symbol "(") =>
    set start
    return .query (← g.query)
  | _ => failAt start "an SQL statement"

end Parser

/-! ## 3. The grammar -/

/-- Reads with the lexemes out of sight, since blanks do not count in a query. -/
def Parser.ignoringBlanks {α : Type} (p : Parser α) : Parser α := fun s => p { s with lexemes := [] }

/-- The grammar that allows `depth` levels of nesting. -/
def grammarAt : Nat → Grammar
  | 0 =>
    ⟨.stop .tooDeep, .stop .tooDeep, .stop .tooDeep, fun _ => .stop .tooDeep, .stop .tooDeep,
      fun _ _ => .stop .tooDeep⟩
  | depth + 1 =>
    let here := (grammarAt depth).level
    { here with
      expr := here.tighter 0
      query := (Parser.query here).ignoringBlanks
      statement := Parser.statement here }

/-- How deep a text may nest. -/
def nestingLimit : Nat := 50

/-- The statements of a text. -/
def Parser.statements : Parser (List Statement) := statementList (grammarAt nestingLimit).statement

end QueryDrill.Sql
