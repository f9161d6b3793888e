import QueryDrill.Sql.Grammar.Change
/-!
Copies between a table and a file or a stream.

Rows that come from the stream stand in the text itself, after the statement: one line a row, with tabs
between the values, up to a line of a backslash and a point. This is the one form in which blanks count.
-/

namespace QueryDrill.Sql.Parser

open QueryDrill.Sql

/-! ## 1. Options -/

/-- An option of a copy, in parentheses. -/
def copyOption : Parser String := do
  let text (word : String) : Parser String := do return word ++ " " ++ quoted '\'' (← literalString)
  let character (word : String) : Parser String := do return word ++ " '" ++ (← literalChar).toString ++ "'"
  let switch (word : String) : Parser String := do
    match ← oneOf? ["TRUE", "FALSE"] with
    | some "FALSE" => return word ++ " FALSE"
    | _ => return word
  let columns (word : String) : Parser String := do
    return word ++ " (" ++ identList (← columnList false) ++ ")"
  match ← oneOf? ["FORMAT", "FREEZE", "DELIMITER", "NULL", "HEADER", "QUOTE", "ESCAPE", "FORCE_QUOTE",
      "FORCE_NOT_NULL", "FORCE_NULL", "ENCODING"] with
  | some "FORMAT" => return "FORMAT " ++ (← ident).sql
  | some "FREEZE" => switch "FREEZE"
  | some "HEADER" => switch "HEADER"
  | some "DELIMITER" => character "DELIMITER"
  | some "QUOTE" => character "QUOTE"
  | some "ESCAPE" => character "ESCAPE"
  | some "NULL" => text "NULL"
  | some "ENCODING" => text "ENCODING"
  | some k => columns k
  | none => fail "option"

/-- A word and the character after it. -/
def copyCharacter (word : String) : Parser String := do
  let _ ← keyword? "AS"
  return word ++ " '" ++ (← literalChar).toString ++ "'"

/-- A detail of comma-separated lines. -/
def lineOption : Parser String := do
  let columns (words : String) : Parser String := do
    return words ++ " " ++ identList (← commaSeparated ident)
  match ← oneOf? ["HEADER", "QUOTE", "ESCAPE", "FORCE"] with
  | some "HEADER" => return "HEADER"
  | some "QUOTE" => copyCharacter "QUOTE"
  | some "ESCAPE" => copyCharacter "ESCAPE"
  | some _ =>
    if ← keywords? ["NOT", "NULL"] then return ← columns "FORCE NOT NULL"
    if ← keyword? "QUOTE" then return ← columns "FORCE QUOTE"
    fail "csv option"
  | none => fail "csv option"

/-- As many as there are of something that may be missing or broken. -/
def asManyAs (p : Parser String) : Parser (List String) := do
  let found ← repeatWhile (fun found => do return (← attempt p).map (· :: found)) []
  return found.reverse

/-- An option of a copy without parentheses. -/
def plainCopyOption : Parser String := do
  match ← oneOf? ["BINARY", "DELIMITER", "NULL", "CSV"] with
  | some "BINARY" => return "BINARY"
  | some "DELIMITER" => copyCharacter "DELIMITER"
  | some "NULL" =>
    let _ ← keyword? "AS"
    return "NULL " ++ quoted '\'' (← literalString)
  | some _ => return "CSV " ++ " ".intercalate (← asManyAs lineOption)
  | none => fail "option"

/-! ## 2. Rows in the text -/

/-- The values among lexemes, and how many tokens they and their end are read from. A tab or the end of a line
ends a value, `\N` is a missing one, and a backslash with a point ends them all. `content` is what the value
at hand holds so far, and `marked` tells that a backslash stands before. -/
def copiedValues (marked : Bool) (content : String) : List Lexeme → List (Option String) × Nat
  | [] => ([], 0)
  | .blank b :: ls =>
    if marked then copiedValues true content ls
    else
      match b with
      | .tab | .newline =>
        let (values, read) := copiedValues false "" ls
        (some content :: values, read)
      | b => copiedValues false (content ++ b.text) ls
  | .token t :: ls =>
    if marked then
      if t = .symbol "." then ([], 1)
      else
        let (values, read) := copiedValues false content ls
        match t with
        | .word "N" _ _ => (none :: values, read + 1)
        | _ => (values, read + 1)
    else
      let (values, read) :=
        if t = .symbol "\\" then copiedValues true content ls else copiedValues false (content ++ t.text) ls
      (values, read + 1)

/-- The rows of a copy, after the semicolon. -/
def copiedRows : Parser (List (Option String)) := do
  let ts ← get
  let lexemes := (← read).lexemes
  let all := (lexemes.filterMap Lexeme.token?).length
  let (values, read) := copiedValues false "" (Lexeme.afterTokens (all - ts.length) lexemes)
  set (ts.drop read)
  return values

/-! ## 3. Copies -/

/-- A copy, after its opening word. -/
def copy (g : Grammar) : Parser String := do
  let (source, isQuery) ← do
    if ← symbol? "(" then
      let q ← g.query
      symbol ")"
      pure ("(" ++ q.sql ++ ")", true)
    else
      let table ← name
      pure (nameSql table ++ clause " (" ((← columnList? false).map Ident.sql) ")", false)
  let direction ← do
    if ← keyword? "FROM" then pure "FROM"
    else if ← keyword? "TO" then pure "TO"
    else fail "FROM or TO"
  if isQuery && direction = "FROM" then refuse "COPY ... FROM does not support query as a source"
  let target ← do
    if ← keyword? "STDIN" then pure "STDIN"
    else if ← keyword? "STDOUT" then pure "STDOUT"
    else if ← keyword? "PROGRAM" then do pure ("PROGRAM " ++ quoted '\'' (← literalString))
    else do pure (quoted '\'' (← literalString))
  let _ ← keyword? "WITH"
  let options ← if ← peekSymbol "(" then parenthesized (commaSeparated copyOption) else pure []
  let plain ← asManyAs plainCopyOption
  let values ← do
    if target = "STDIN" then
      symbol ";"
      copiedRows
    else pure []
  return "COPY " ++ source ++ " " ++ direction ++ " " ++ target ++ clause " (" options ")"
    ++ (if plain.isEmpty then "" else " " ++ " ".intercalate plain)
    ++ (if values.isEmpty then "" else ";\n" ++ "\t".intercalate (values.map (·.getD "\\N")) ++ "\n\\.")

end QueryDrill.Sql.Parser
