import QueryDrill.Sql.Grammar.Source
/-!
Queries: `SELECT` with its clauses, set operations, and what stands around a query body.

An insertion or an update may stand where a query does, so they are read here too.
-/

namespace QueryDrill.Sql.Parser

open QueryDrill.Sql

/-! ## 1. The `SELECT` list -/

/-- One name, or several in parentheses, after a word. -/
def oneOrMany (word : String) (entry : Parser String) : Parser String := do
  if ← symbol? "(" then
    let entries ← commaSeparated entry
    symbol ")"
    return " " ++ word ++ " (" ++ commaList entries ++ ")"
  return " " ++ word ++ " " ++ (← entry)

/-- A clause that leaves columns out of a wildcard. -/
def exceptColumns : Parser String := do
  let columns ← if ← peekSymbol "(" then columnList false else List.singleton <$> ident
  return " EXCEPT (" ++ identList columns ++ ")"

/-- A column that a wildcard shows in another way. -/
def replacedColumn (g : Grammar) : Parser (List Piece) := do
  let e ← g.expr
  let word := if ← keyword? "AS" then " AS " else " "
  return [.operand e, .words (word ++ (← ident).sql)]

/-- The clauses after a wildcard, which only the generic dialect knows. -/
def wildcardOptions (g : Grammar) : Parser (List Expr) := do
  unless (← dialect) = .generic do return []
  let fixed (word : String) (p : Parser String) : Parser (List Expr) := do
    if ← keyword? word then return [.fixed (← p)] else return []
  let renamed : Parser String := do
    let column ← ident
    keyword "AS"
    return column.sql ++ " AS " ++ (← ident).sql
  let exclude ← fixed "EXCLUDE" (oneOrMany "EXCLUDE" (Ident.sql <$> ident))
  let except ← fixed "EXCEPT" exceptColumns
  let rename ← fixed "RENAME" (oneOrMany "RENAME" renamed)
  let replace ← do
    if !(← keyword? "REPLACE") then pure []
    else if ← symbol? "(" then
      let columns ← commaSeparated (replacedColumn g)
      symbol ")"
      pure [.ofPieces (.words " REPLACE (" :: (columns.intersperse [.words ", "]).flatten ++ [.words ")"])]
    else fail "( after REPLACE but"
  return exclude ++ except ++ rename ++ replace

/-- The condition of a filter after an aggregate; without one, nothing is read. -/
def filterCondition (g : Grammar) (e : Expr) : Parser Expr := do
  unless (← dialect).hasAggregateFilter do return e
  let start ← get
  unless ← keyword? "FILTER" do return e
  if ← symbol? "(" then
    if ← keyword? "WHERE" then
      let filter ← g.expr
      symbol ")"
      return .form ["", " FILTER (WHERE ", ")"] [e, filter]
  set start
  return e

/-- An entry of the `SELECT` list. -/
def selectItem (g : Grammar) : Parser SelectItem := do
  match ← wildcardOrExpr g with
  | .inl name => return .wildcard name (← wildcardOptions g)
  | .inr e =>
    let e ← filterCondition g e
    return .expr e (← label? reservedForColumn)

/-! ## 2. The clauses of a `SELECT` -/

/-- `TOP`, after its opening word. -/
def top (g : Grammar) : Parser Expr := do
  let amount : List Piece ← do
    if ← symbol? "(" then
      let e ← g.expr
      symbol ")"
      pure [.words "TOP (", .operand e, .words ")"]
    else pure [.words ("TOP " ++ toString (← wholeNumber))]
  let percent := if ← keyword? "PERCENT" then " PERCENT" else ""
  let ties := if ← keywords? ["WITH", "TIES"] then " WITH TIES" else ""
  return .ofPieces (amount ++ [.words (percent ++ ties)])

/-- The table that a `SELECT` makes, after `INTO`. -/
def selectInto : Parser String := do
  let temporary := (← oneOf? ["TEMP", "TEMPORARY"]).isSome
  let unlogged ← keyword? "UNLOGGED"
  let table ← keyword? "TABLE"
  let target ← name
  return "INTO" ++ (if temporary then " TEMPORARY" else "") ++ (if unlogged then " UNLOGGED" else "")
    ++ (if table then " TABLE" else "") ++ " " ++ nameSql target

/-- The views that a source is spread over, with the space before each. -/
def lateralViews (g : Grammar) : Parser (List Expr) := do
  let views ← repeatWhile (fun views => do
    unless ← keywords? ["LATERAL", "VIEW"] do return none
    let word := if ← keyword? "OUTER" then " LATERAL VIEW OUTER " else " LATERAL VIEW "
    let e ← g.expr
    let view ← name
    let columns ← commaSeparated (label? ["WHERE", "GROUP", "CLUSTER", "HAVING", "LATERAL"])
    let columns := columns.filterMap id
    let names := if columns.isEmpty then "" else " AS " ++ identList columns
    return some (Expr.form [word, " " ++ nameSql view ++ names] [e] :: views)) []
  return views.reverse

/-- A group of expressions in parentheses, perhaps empty. -/
def group (g : Grammar) : Parser (List Expr) := do
  symbol "("
  if ← symbol? ")" then return []
  let es ← commaSeparated g.expr
  symbol ")"
  return es

/-- A list of groups in parentheses. A group of one is written bare where `lifts` holds. -/
def groups (g : Grammar) (word : String) (lifts : Bool) : Parser Expr := do
  let entry : Parser (List Expr) := do
    if lifts then
      if ← peekSymbol "(" then group g else return [← g.expr]
    else group g
  symbol "("
  let entries ← commaSeparated entry
  symbol ")"
  let pieces (es : List Expr) : List Piece :=
    match lifts, es with
    | true, [e] => [.operand e]
    | _, es => .words "(" :: Piece.commaList es ++ [.words ")"]
  return .ofPieces (.words (word ++ " (") :: ((entries.map pieces).intersperse [.words ", "]).flatten
    ++ [.words ")"])

/-- An entry of `GROUP BY`. -/
def groupEntry (g : Grammar) : Parser Expr := do
  if (← dialect).hasGroupingSets then
    if ← keywords? ["GROUPING", "SETS"] then return ← groups g "GROUPING SETS" false
    if ← keyword? "CUBE" then return ← groups g "CUBE" true
    if ← keyword? "ROLLUP" then return ← groups g "ROLLUP" true
  g.expr

/-- A named window. -/
def namedWindow (g : Grammar) : Parser Expr := do
  let window ← ident
  keyword "AS"
  symbol "("
  let spec ← windowSpec g
  return .ofPieces (.words (window.sql ++ " AS (") :: spec ++ [.words ")"])

/-- A clause that words open, or nothing. -/
def clause? {α : Type} (words : List String) (p : Parser α) : Parser (Option α) := do
  if ← keywords? words then some <$> p else return none

/-- A clause with a list that words open, or nothing. -/
def listClause {α : Type} (words : List String) (p : Parser α) : Parser (List α) := do
  if ← keywords? words then commaSeparated p else return []

/-- A `SELECT`, after its opening word. -/
def select (g : Grammar) : Parser Select := do
  let distinct ← distinct? g
  let top ← clause? ["TOP"] (top g)
  let projection ← commaSeparated (selectItem g)
  let into ← clause? ["INTO"] selectInto
  let sources ← listClause ["FROM"] (fromItem g)
  let views ← lateralViews g
  let selection ← clause? ["WHERE"] g.expr
  let grouped ← keywords? ["GROUP", "BY"]
  let groupsAll ← if grouped then keyword? "ALL" else pure false
  let groupBy ← if grouped && !groupsAll then commaSeparated (groupEntry g) else pure []
  let clusterBy ← listClause ["CLUSTER", "BY"] g.expr
  let distributeBy ← listClause ["DISTRIBUTE", "BY"] g.expr
  let sortBy ← listClause ["SORT", "BY"] g.expr
  let having ← clause? ["HAVING"] g.expr
  let windows ← listClause ["WINDOW"] (namedWindow g)
  let qualify ← clause? ["QUALIFY"] g.expr
  return ⟨distinct, top, projection, into, sources, views, selection, groupsAll, groupBy, clusterBy,
    distributeBy, sortBy, having, windows, qualify⟩

/-! ## 3. Insertions and updates -/

/-- An assignment to columns. What stands before the equals sign counts only as far as it is words. -/
def assignment (g : Grammar) : Parser (List Piece) := do
  let ts ← get
  let before := ts.takeWhile (· ≠ .symbol "=")
  let target := before.filterMap fun
    | .word v q _ => some (⟨v, q⟩ : Ident)
    | _ => none
  set (ts.drop before.length)
  symbol "="
  return [.words (nameSql target ++ " = "), .operand (← g.expr)]

/-- Assignments with commas between them. -/
def assignments (g : Grammar) : Parser (List Piece) := do
  return ((← commaSeparated (assignment g)).intersperse [.words ", "]).flatten

/-- What an insertion does with a row that is already there, after `ON`. -/
def conflictClause (g : Grammar) : Parser Expr := do
  unless ← keyword? "CONFLICT" do
    keywords ["DUPLICATE", "KEY", "UPDATE"]
    return .ofPieces (.words " ON DUPLICATE KEY UPDATE " :: (← assignments g))
  let target ← do
    if ← keywords? ["ON", "CONSTRAINT"] then pure (" ON CONSTRAINT " ++ nameSql (← name))
    else if ← peekSymbol "(" then pure ("(" ++ identList (← columnList false) ++ ")")
    else pure ""
  keyword "DO"
  if ← keyword? "NOTHING" then return .fixed (" ON CONFLICT" ++ target ++ " DO NOTHING")
  keywords ["UPDATE", "SET"]
  let changes ← assignments g
  let selection : List Piece ← do
    if ← keyword? "WHERE" then pure [.words " WHERE ", .operand (← g.expr)] else pure []
  return .ofPieces (.words (" ON CONFLICT" ++ target ++ " DO UPDATE SET ") :: changes ++ selection)

/-- The words between `INSERT` and `INTO` that some dialects know. -/
def insertModifiers : Parser String := do
  match ← dialect with
  | .sqlite =>
    let action (k : String) : Parser (Option String) := do
      if ← keywords? ["OR", k] then return some (" OR " ++ k) else return none
    for k in ["REPLACE", "ROLLBACK", "ABORT", "FAIL", "IGNORE"] do
      if let some text ← action k then return text
    if ← keyword? "REPLACE" then return " OR REPLACE"
    return ""
  | .mysql | .generic =>
    let priority := match ← oneOf? ["LOW_PRIORITY", "DELAYED", "HIGH_PRIORITY"] with
      | some k => " " ++ k
      | none => ""
    return priority ++ (if ← keyword? "IGNORE" then " IGNORE" else "")
  | .postgres => return ""

/-- The format of a file. -/
def fileFormat : Parser String := do
  match ← oneOf? ["AVRO", "JSONFILE", "ORC", "PARQUET", "RCFILE", "SEQUENCEFILE", "TEXTFILE"] with
  | some k => return k
  | none => failReading "fileformat"

/-- An insertion into a table, after the words before the table. -/
def insertionInto (g : Grammar) (verb : String) : Parser Insertion := do
  let d ← dialect
  let table ← name
  let label ← if d = .postgres then clause? ["AS"] ident else pure none
  let (columns, partition, after, source) ← do
    if ← keywords? ["DEFAULT", "VALUES"] then pure ([], [], [], none)
    else
      let columns ← columnList? (d = .mysql)
      let partition ← do
        if ← keyword? "PARTITION" then parenthesized (commaSeparated g.expr) else pure []
      let after ← columnList? false
      pure (columns, partition, after, some (← g.query))
  let conflict ← if ← keyword? "ON" then do pure [← conflictClause g] else pure []
  let returning ← listClause ["RETURNING"] (selectItem g)
  return ⟨verb, table, label, columns, source, partition, after, conflict, returning⟩

/-- An insertion into a table or into a directory, after its opening word. -/
def insertion (g : Grammar) : Parser (Insertion ⊕ String × Query) := do
  let modifiers ← insertModifiers
  let action := match ← oneOf? ["INTO", "OVERWRITE"] with
    | some k => " " ++ k
    | none => ""
  let isLocal ← keyword? "LOCAL"
  if ← keyword? "DIRECTORY" then
    let path ← literalString
    let format ← do
      if ← keywords? ["STORED", "AS"] then pure (" STORED AS " ++ (← fileFormat)) else pure ""
    let words := "INSERT" ++ (if action = " OVERWRITE" then action else "")
      ++ (if isLocal then " LOCAL" else "") ++ " DIRECTORY '" ++ path ++ "'" ++ format ++ " "
    return .inr (words, ← g.query)
  let word := if ← keyword? "TABLE" then " TABLE" else ""
  let verb := if modifiers.startsWith " OR" then "INSERT" ++ modifiers ++ " INTO"
    else "INSERT" ++ modifiers ++ action ++ word
  return .inl (← insertionInto g verb)

/-- An update, after its opening word. -/
def update (g : Grammar) : Parser Update := do
  let d ← dialect
  let target ← fromItem g
  keyword "SET"
  let assigned ← commaSeparated (assignment g)
  let source ← do
    if ← keyword? "FROM" then
      if d = .postgres || d = .generic then some <$> fromItem g else pure none
    else pure none
  let selection ← clause? ["WHERE"] g.expr
  let returning ← listClause ["RETURNING"] (selectItem g)
  return ⟨target, assigned.map .ofPieces, source, selection, returning⟩

/-! ## 4. Query bodies -/

/-- Rows of values, after the opening word. If one row says `ROW`, all of them are written so. -/
def values (g : Grammar) : Parser Body := do
  let mayBeEmpty := (← dialect) = .mysql
  let rows ← commaSeparated (do
    let explicit ← keyword? "ROW"
    symbol "("
    if mayBeEmpty then
      if ← symbol? ")" then return (explicit, [])
    let es ← commaSeparated g.expr
    symbol ")"
    return (explicit, es))
  let word := if rows.any Prod.fst then "ROW(" else "("
  return .values (rows.map fun (_, es) => .ofPieces (.words word :: Piece.commaList es ++ [.words ")"]))

/-- A table as a query, after the opening word. Three tokens are read whatever they are. -/
def tableBody : Parser Body := do
  let ts ← get
  set (ts.drop 3)
  match ts[1]? with
  | some (.symbol ".") =>
    match ts with
    | .word schema _ _ :: _ :: .word table _ _ :: _ => return .table (schema ++ "." ++ table)
    | .word .. :: _ => failAt (ts.drop 2) "Table name"
    | _ => failAt ts "Schema name"
  | _ =>
    match ts with
    | .word table _ _ :: _ => return .table table
    | _ => failAt ts "Table name"

/-- A query body without set operators. -/
def bodyTerm (g : Grammar) : Parser Body := do
  if ← keyword? "SELECT" then return .select (← select g)
  if ← symbol? "(" then
    let q ← g.query
    symbol ")"
    return .paren q
  if ← keyword? "VALUES" then return ← values g
  if ← keyword? "TABLE" then return ← tableBody
  fail "SELECT, VALUES, or a subquery in the query body"

/-- The set operator that comes next, which stays. -/
def peekSetOperator? : Parser (Option SetOperator) := do
  match ← peekKeyword with
  | "UNION" => return some .union
  | "EXCEPT" => return some .except
  | "INTERSECT" => return some .intersect
  | _ => return none

/-- What follows a set operator. -/
def setQuantifier (op : SetOperator) : Parser SetQuantifier := do
  if op = .union then
    if ← keywords? ["DISTINCT", "BY", "NAME"] then return .distinctByName
    if ← keywords? ["BY", "NAME"] then return .byName
    if ← keywords? ["ALL", "BY", "NAME"] then return .allByName
  if ← keyword? "ALL" then return .all
  if ← keyword? "DISTINCT" then return .distinct
  return .none

/-- A chain of bodies whose operators `binds` admits, with `right` for what stands right of each. -/
def bodyChain (g : Grammar) (binds : SetOperator → Bool) (right : SetOperator → Parser Body) :
    Parser Body := do
  let first ← bodyTerm g
  repeatWhile (fun left => do
    match ← peekSetOperator? with
    | none => return none
    | some op =>
      unless binds op do return none
      let _ ← next?
      let quantifier ← setQuantifier op
      return some (.setOperation op quantifier left (← right op))) first

/-- A query body. `INTERSECT` binds tighter than the other set operators. -/
def body (g : Grammar) : Parser Body :=
  bodyChain g (fun _ => true) fun op =>
    if op = .intersect then bodyTerm g else bodyChain g (· = .intersect) fun _ => bodyTerm g

/-! ## 5. Queries -/

/-- A query that `WITH` gives a name. -/
def cte (g : Grammar) : Parser Cte := do
  let name ← ident
  let columns ← do
    if ← keyword? "AS" then pure []
    else
      let columns ← columnList? false
      keyword "AS"
      pure columns
  let q ← parenthesized g.query
  return ⟨⟨name, columns⟩, q, ← clause? ["FROM"] ident⟩

/-- The limit and the offset of a query, in either order. The form with a comma names the offset
first. -/
def limits (g : Grammar) : Parser (Option Expr × Option Expr) := do
  let hasComma := (← dialect) = .generic || (← dialect) = .mysql
  let step (limit offset : Option Expr) : Parser (Option Expr × Option Expr) := do
    let limit ← do
      if limit.isSome then pure limit
      else if ← keyword? "LIMIT" then
        if ← keyword? "ALL" then pure none else some <$> g.expr
      else pure none
    let offset ← do
      if offset.isSome then pure offset
      else if ← keyword? "OFFSET" then
        let e ← g.expr
        let rows ← do
          if ← keyword? "ROW" then pure " ROW"
          else if ← keyword? "ROWS" then pure " ROWS"
          else pure ""
        pure (some (.form ["OFFSET ", rows] [e]))
      else pure none
    match limit, offset with
    | some e, none =>
      if hasComma then
        if ← symbol? "," then return (some (← g.expr), some (.form ["OFFSET ", ""] [e]))
      return (limit, offset)
    | _, _ => return (limit, offset)
  let (limit, offset) ← step none none
  step limit offset

/-- `FETCH`, after its opening word. -/
def fetch : Parser Expr := do
  let _ ← oneOf ["FIRST", "NEXT"]
  let amount ← do
    if (← oneOf? ["ROW", "ROWS"]).isSome then pure none
    else
      let v ← literal
      let percent ← keyword? "PERCENT"
      let _ ← oneOf ["ROW", "ROWS"]
      pure (some (v, if percent then " PERCENT" else ""))
  let ties ← do
    if ← keyword? "ONLY" then pure " ONLY"
    else if ← keywords? ["WITH", "TIES"] then pure " WITH TIES"
    else fail "one of ONLY or WITH TIES"
  match amount with
  | none => return .fixed ("FETCH FIRST ROWS" ++ ties)
  | some (v, percent) => return .form ["FETCH FIRST ", percent ++ " ROWS" ++ ties] [.literal v]

/-- A name in quotes and parentheses, or nothing. -/
def elementName? : Parser String := do
  unless ← symbol? "(" do return ""
  let s ← literalString
  symbol ")"
  return "('" ++ s ++ "')"

/-- The options of a document clause, each known by its word. -/
def documentOptions (option : Parser (Option String)) : Parser (List String) :=
  repeatWhile (fun options => do
    unless ← symbol? "," do return none
    match ← option with
    | some o => return some (o :: options)
    | none => return some options) []

/-- How rows are turned into a document, or nothing. The options have an order of their own. -/
def documentClause? : Parser (Option String) := do
  let inOrder (order : List String) (options : List String) : String :=
    String.join (order.map fun o =>
      match options.find? fun s => s = o || (o = "ROOT" && s.startsWith o) with
      | some s => ", " ++ s
      | none => "")
  if ← keyword? "XML" then
    let shape ← do
      if ← keyword? "RAW" then pure ("RAW" ++ (← elementName?))
      else if ← keyword? "AUTO" then pure "AUTO"
      else if ← keyword? "EXPLICIT" then pure "EXPLICIT"
      else if ← keyword? "PATH" then pure ("PATH" ++ (← elementName?))
      else refuse "Expected FOR XML [RAW | AUTO | EXPLICIT | PATH ]"
    let options ← documentOptions (do
      if ← keyword? "ELEMENTS" then return some "ELEMENTS"
      if ← keyword? "BINARY" then
        keyword "BASE64"
        return some "BINARY BASE64"
      if ← keyword? "ROOT" then
        unless ← peekSymbol "(" do fail "("
        return some ("ROOT" ++ (← elementName?))
      if ← keyword? "TYPE" then return some "TYPE"
      return none)
    return some ("FOR XML " ++ shape ++ inOrder ["BINARY BASE64", "TYPE", "ROOT", "ELEMENTS"] options)
  if ← keyword? "JSON" then
    let shape ← do
      if ← keyword? "AUTO" then pure "AUTO"
      else if ← keyword? "PATH" then pure "PATH"
      else refuse "Expected FOR JSON [AUTO | PATH ]"
    let options ← documentOptions (do
      if ← keyword? "ROOT" then
        unless ← peekSymbol "(" do fail "("
        return some ("ROOT" ++ (← elementName?))
      if ← keyword? "INCLUDE_NULL_VALUES" then return some "INCLUDE_NULL_VALUES"
      if ← keyword? "WITHOUT_ARRAY_WRAPPER" then return some "WITHOUT_ARRAY_WRAPPER"
      return none)
    return some ("FOR JSON " ++ shape
      ++ inOrder ["ROOT", "INCLUDE_NULL_VALUES", "WITHOUT_ARRAY_WRAPPER"] options)
  if ← keyword? "BROWSE" then return some "FOR BROWSE"
  return none

/-- A lock on the rows of a query, after `FOR`. -/
def lock : Parser String := do
  let kind ← oneOf ["UPDATE", "SHARE"]
  let table ← do
    if ← keyword? "OF" then pure (" OF " ++ nameSql (← name)) else pure ""
  let wait ← do
    if ← keyword? "NOWAIT" then pure " NOWAIT"
    else if ← keywords? ["SKIP", "LOCKED"] then pure " SKIP LOCKED"
    else pure ""
  return "FOR " ++ kind ++ table ++ wait

/-- The clauses that `FOR` opens. A document clause is the last one. -/
def locks : Parser (List String) := do
  let (texts, _) ← repeatWhile (fun (texts, done) => do
    if done then return none
    unless ← keyword? "FOR" do return none
    match ← documentClause? with
    | some text => return some (text :: texts, true)
    | none => return some ((← lock) :: texts, false)) (([] : List String), false)
  return texts.reverse

/-- A query. -/
def query (g : Grammar) : Parser Query := do
  let hasCtes ← keyword? "WITH"
  let recursive ← if hasCtes then keyword? "RECURSIVE" else pure false
  let ctes ← if hasCtes then commaSeparated (cte g) else pure []
  if ← keyword? "INSERT" then
    let body ← do
      match ← insertion g with
      | .inl i => pure (.insert i)
      | .inr (words, q) => pure (.toDirectory words q)
    return ⟨recursive, ctes, body, [], none, [], none, none, []⟩
  if ← keyword? "UPDATE" then
    return ⟨recursive, ctes, .update (← update g), [], none, [], none, none, []⟩
  let body ← body g
  let keys ← orderBy? g
  let (limit, offset) ← limits g
  let limitBy ← do
    if (← dialect) = .generic then listClause ["BY"] g.expr else pure []
  let fetch ← clause? ["FETCH"] fetch
  return ⟨recursive, ctes, body, keys, limit, limitBy, offset, fetch, ← locks⟩

end QueryDrill.Sql.Parser
