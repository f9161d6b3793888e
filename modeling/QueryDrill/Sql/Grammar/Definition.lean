import QueryDrill.Sql.Grammar.Query
/-!
Table definitions.

The keys that a definition declares are kept as data; defaults, checks and storage options are kept as
text.
-/

namespace QueryDrill.Sql.Parser

open QueryDrill.Sql

/-! ## 1. Constraints -/

/-- When a constraint is checked, with a space before it; empty if nothing is said. -/
def constraintTiming : Parser String := do
  let (deferrable, initially, enforced) ← repeatWhile (fun (deferrable, initially, enforced) => do
    if deferrable = "" then
      if ← keywords? ["NOT", "DEFERRABLE"] then return some (" NOT DEFERRABLE", initially, enforced)
      if ← keyword? "DEFERRABLE" then return some (" DEFERRABLE", initially, enforced)
    if initially = "" then
      if ← keyword? "INITIALLY" then
        if ← keyword? "DEFERRED" then return some (deferrable, " INITIALLY DEFERRED", enforced)
        if ← keyword? "IMMEDIATE" then return some (deferrable, " INITIALLY IMMEDIATE", enforced)
        fail "one of DEFERRED or IMMEDIATE"
    if enforced = "" then
      if ← keyword? "ENFORCED" then return some (deferrable, initially, " ENFORCED")
      if ← keywords? ["NOT", "ENFORCED"] then return some (deferrable, initially, " NOT ENFORCED")
    return none) ("", "", "")
  return deferrable ++ initially ++ enforced

/-- What happens to a row when the row that it references changes. -/
def referentialAction : Parser String := do
  for words in [["RESTRICT"], ["CASCADE"], ["SET", "NULL"], ["NO", "ACTION"], ["SET", "DEFAULT"]] do
    if ← keywords? words then return " ".intercalate words
  fail "one of RESTRICT, CASCADE, SET NULL, NO ACTION or SET DEFAULT"

/-- The actions of a reference and when it is checked. -/
def referenceRules : Parser String := do
  let (onDelete, onUpdate) ← repeatWhile (fun (onDelete, onUpdate) => do
    if onDelete = "" then
      if ← keywords? ["ON", "DELETE"] then
        return some (" ON DELETE " ++ (← referentialAction), onUpdate)
    if onUpdate = "" then
      if ← keywords? ["ON", "UPDATE"] then
        return some (onDelete, " ON UPDATE " ++ (← referentialAction))
    return none) ("", "")
  return onDelete ++ onUpdate ++ (← constraintTiming)

/-- The type of an index. -/
def indexType : Parser String := do
  if ← keyword? "BTREE" then return "BTREE"
  if ← keyword? "HASH" then return "HASH"
  fail "index type \x7bBTREE | HASH\x7d"

/-- A constraint of a table, or nothing. -/
def tableConstraint? (g : Grammar) : Parser (Option TableConstraint) := do
  let d ← dialect
  let hasIndexes := d = .mysql || d = .generic
  let given ← clause? ["CONSTRAINT"] ident
  let start ← get
  match ← oneOf? ["PRIMARY", "UNIQUE", "FOREIGN", "CHECK", "INDEX", "KEY", "FULLTEXT", "SPATIAL"] with
  | some "PRIMARY" =>
    let (name, columns, rest) ← key given
    return some (.primaryKey name columns rest)
  | some "UNIQUE" =>
    let (name, columns, rest) ← key given
    return some (.unique name columns rest)
  | some "FOREIGN" =>
    keyword "KEY"
    let columns ← columnList false
    keyword "REFERENCES"
    let table ← name
    let referenced ← columnList false
    return some (.foreignKey given columns table referenced (← referenceRules))
  | some "CHECK" =>
    let e ← parenthesized g.expr
    return some (.other (constraintName given ++ "CHECK (" ++ e.sql ++ ")"))
  | some k =>
    if (k = "INDEX" || k = "KEY") && hasIndexes then
      let index ← if (← peekKeyword) = "USING" then pure none else attempt ident
      let type ← clause? ["USING"] indexType
      let columns ← columnList false
      let type := match type with
        | some t => " USING " ++ t
        | none => ""
      return some (.other (k ++ shown index ++ type ++ " (" ++ identList columns ++ ")"))
    if (k = "FULLTEXT" || k = "SPATIAL") && hasIndexes then
      if let some n := given then
        refuseAt start ("Expected FULLTEXT or SPATIAL option without constraint name, found: " ++ n.sql)
      let word ← do
        if ← keyword? "KEY" then pure " KEY"
        else if ← keyword? "INDEX" then pure " INDEX"
        else pure ""
      let index ← attempt ident
      let columns ← columnList false
      return some (.other (k ++ word ++ shown index ++ " (" ++ identList columns ++ ")"))
    none? given start
  | none => none? given start
where
  /-- No constraint: nothing may have been read. -/
  none? (given : Option Ident) (start : List Token) : Parser (Option TableConstraint) := do
    if given.isSome then failAt start "PRIMARY, UNIQUE, FOREIGN, or CHECK"
    set start
    return none
  /-- An optional name after a space. -/
  shown (n : Option Ident) : String :=
    match n with
    | some n => " " ++ n.sql
    | none => ""
  /-- A key after its first word. A name in front of the columns goes before a given one. -/
  key (given : Option Ident) : Parser (Option Ident × List Ident × String) := do
    let _ ← keyword? "KEY"
    let own ← attempt ident
    let columns ← columnList false
    return (own <|> given, columns, ← constraintTiming)

/-! ## 2. Columns -/

/-- Options with values, in parentheses after a word. -/
def options? (g : Grammar) (word : String) : Parser (List String) := do
  unless ← keyword? word do return []
  parenthesized (commaSeparated (do
    let option ← ident
    symbol "="
    return option.sql ++ " = " ++ (← g.expr).sql))

/-- A number or a parameter. -/
def numberLiteral : Parser String := do
  let ts ← get
  match ← literal with
  | .number n long => return (Literal.number n long).sql
  | .verbatim s =>
    match ts with
    | .placeholder _ :: _ | .symbol _ :: _ => return s
    | _ => failAt ts "literal number"
  | _ => failAt ts "literal number"

/-- The options of a sequence. -/
def sequenceOptions : Parser String := do
  let bound (word : String) : Parser String := do
    if ← keyword? word then return " " ++ word ++ " " ++ (← numberLiteral)
    if ← keywords? ["NO", word] then return " NO " ++ word
    return ""
  let step (word filler : String) : Parser String := do
    unless ← keyword? word do return ""
    let filler := if ← keyword? filler then " " ++ filler else ""
    return " " ++ word ++ filler ++ " " ++ (← numberLiteral)
  let increment ← step "INCREMENT" "BY"
  let lower ← bound "MINVALUE"
  let upper ← bound "MAXVALUE"
  let start ← step "START" "WITH"
  let cache ← if ← keyword? "CACHE" then do pure (" CACHE " ++ (← numberLiteral)) else pure ""
  let cycle ← do
    if ← keywords? ["NO", "CYCLE"] then pure " NO CYCLE"
    else if ← keyword? "CYCLE" then pure " CYCLE"
    else pure ""
  return increment ++ lower ++ upper ++ start ++ cache ++ cycle

/-- The sequence that fills an identity column. -/
def identity (when : String) : Parser ColumnOption := do
  let options ← if ← symbol? "(" then do
      let options ← sequenceOptions
      symbol ")"
      pure options
    else pure ""
  let options := if options = "" then "" else " (" ++ options ++ " )"
  return .other ("GENERATED " ++ when ++ " AS IDENTITY" ++ options)

/-- How a computed column is kept. -/
def storage (needsStored : Bool) : Parser String := do
  if ← keyword? "STORED" then return " STORED"
  if needsStored then fail "STORED"
  if ← keyword? "VIRTUAL" then return " VIRTUAL"
  return ""

/-- What fills a generated column, after its opening word. -/
def generated? (g : Grammar) : Parser (Option ColumnOption) := do
  if ← keywords? ["ALWAYS", "AS", "IDENTITY"] then return some (← identity "ALWAYS")
  if ← keywords? ["BY", "DEFAULT", "AS", "IDENTITY"] then return some (← identity "BY DEFAULT")
  unless ← keywords? ["ALWAYS", "AS"] do return none
  unless ← symbol? "(" do return none
  let e ← g.expr
  symbol ")"
  return some (.other ("GENERATED ALWAYS AS (" ++ e.sql ++ ")" ++ (← storage ((← dialect) = .postgres))))

/-- An option of a column, or nothing. A word that another dialect owns is read and has no effect. -/
def columnOption? (g : Grammar) : Parser (Option ColumnOption) := do
  let d ← dialect
  if ← keywords? ["CHARACTER", "SET"] then
    return some (.other ("CHARACTER SET " ++ nameSql (← name)))
  if ← keywords? ["NOT", "NULL"] then return some .notNull
  if ← keyword? "COMMENT" then
    let ts ← get
    match ← next? with
    | some (.singleQuoted s) => return some (.other ("COMMENT " ++ quoted '\'' s))
    | _ => failAt ts "string"
  if ← keyword? "NULL" then return some (.other "NULL")
  if ← keyword? "DEFAULT" then return some (.other ("DEFAULT " ++ (← g.expr).sql))
  if ← keywords? ["PRIMARY", "KEY"] then return some (.primaryKey (← constraintTiming))
  if ← keyword? "UNIQUE" then return some (.unique (← constraintTiming))
  if ← keyword? "REFERENCES" then
    let table ← name
    let columns ← columnList? false
    return some (.references table columns (← referenceRules))
  if ← keyword? "CHECK" then
    return some (.other ("CHECK (" ++ (← parenthesized g.expr).sql ++ ")"))
  if ← keyword? "AUTO_INCREMENT" then
    if d = .mysql || d = .generic then return some (.other "AUTO_INCREMENT")
  if ← keyword? "AUTOINCREMENT" then
    if d = .sqlite || d = .generic then return some (.other "AUTOINCREMENT")
  if ← keywords? ["ON", "UPDATE"] then
    if d = .mysql || d = .generic then return some (.other ("ON UPDATE " ++ (← g.expr).sql))
  if ← keyword? "GENERATED" then return ← generated? g
  if d = .generic && (← peekKeyword) = "OPTIONS" then
    return some (.other ("OPTIONS(" ++ commaList (← options? g "OPTIONS") ++ ")"))
  if ← keyword? "AS" then
    if d ≠ .postgres then
      let e ← parenthesized g.expr
      return some (.other ("AS (" ++ e.sql ++ ")" ++ (← storage false)))
  return none

/-- Whether a column has no type, which one dialect allows. -/
def lacksType : Parser Bool := do
  unless (← dialect) = .sqlite do return false
  match ← peek? with
  | some (.word _ _ k) =>
    return ["CONSTRAINT", "PRIMARY", "NOT", "UNIQUE", "CHECK", "DEFAULT", "COLLATE", "REFERENCES",
      "GENERATED", "AS"].contains k
  | _ => return true

/-- A column definition. -/
def columnDef (g : Grammar) : Parser ColumnDef := do
  let d ← dialect
  let column ← ident
  let type ← if ← lacksType then pure "" else DataType.text <$> dataType
  let collated : Parser String := do return " COLLATE " ++ nameSql (← name)
  let collation ← if ← keyword? "COLLATE" then collated else pure ""
  let (collation, options) ← repeatWhile (fun (collation, options) => do
    if ← keyword? "CONSTRAINT" then
      let given ← ident
      match ← columnOption? g with
      | some o => return some (collation, (some given, o) :: options)
      | none => fail "constraint details after CONSTRAINT <name>"
    match ← columnOption? g with
    | some o => return some (collation, (none, o) :: options)
    | none =>
      if d = .mysql || d = .generic then
        if ← keyword? "COLLATE" then return some (← collated, options)
      return none) (collation, [])
  return ⟨column, type, collation, options.reverse⟩

/-- The column list of a table definition. A comma may end it. -/
def columnDefs (g : Grammar) : Parser (List ColumnDef × List TableConstraint) := do
  unless ← symbol? "(" do return ([], [])
  if ← symbol? ")" then return ([], [])
  let (columns, constraints, _) ← repeatWhile (fun (columns, constraints, done) => do
    if done then return none
    let (columns, constraints) ← do
      match ← tableConstraint? g with
      | some c => pure (columns, c :: constraints)
      | none =>
        match ← peek? with
        | some (.word ..) => pure ((← columnDef g) :: columns, constraints)
        | _ => fail "column name or constraint definition"
    let comma ← symbol? ","
    if ← symbol? ")" then return some (columns, constraints, true)
    unless comma do fail "',' or ')' after column definition"
    return some (columns, constraints, false))
    (([] : List ColumnDef), ([] : List TableConstraint), false)
  return (columns.reverse, constraints.reverse)

/-! ## 3. Tables -/

/-- The word that an option is set to. -/
def optionWord : Parser String := do
  let ts ← get
  match ← next? with
  | some (.word v _ _) => return v
  | _ => failAt ts "identifier"

/-- The columns that a table is partitioned by. -/
def partitionColumns (g : Grammar) : Parser String := do
  unless ← keywords? ["PARTITIONED", "BY"] do return ""
  let columns ← parenthesized (commaSeparated (columnDef g))
  return " PARTITIONED BY (" ++ commaList (columns.map ColumnDef.sql) ++ ")"

/-- How the rows of a table are kept in files: each part as its text, with a space before it, or empty. -/
structure FileLayout where
  rows : String
  /-- Formats for reading and writing. -/
  converters : String
  format : String
  location : String

/-- How the rows of a table are kept in files. A part that is given again replaces the first one. -/
def fileLayout (g : Grammar) : Parser FileLayout :=
  repeatWhile (fun layout => do
    match ← oneOf? ["ROW", "STORED", "LOCATION"] with
    | some "ROW" =>
      keyword "FORMAT"
      match ← oneOf? ["SERDE", "DELIMITED"] with
      | some "SERDE" => return some { layout with rows := " ROW FORMAT SERDE '" ++ (← literalString) ++ "'" }
      | _ => return some { layout with rows := " ROW FORMAT DELIMITED" }
    | some "STORED" =>
      keyword "AS"
      if ← keyword? "INPUTFORMAT" then
        let input ← g.expr
        keyword "OUTPUTFORMAT"
        let output ← g.expr
        let text := " STORED AS INPUTFORMAT " ++ input.sql ++ " OUTPUTFORMAT " ++ output.sql
        return some { layout with converters := text, format := "" }
      return some { layout with converters := "", format := " STORED AS " ++ (← fileFormat) }
    | some _ => return some { layout with location := " LOCATION '" ++ (← literalString) ++ "'" }
    | none => return none) ⟨"", "", "", ""⟩

/-- The text of a file layout. -/
def FileLayout.sql (l : FileLayout) : String := l.rows ++ l.converters ++ l.format ++ l.location

/-- The options after the column list of a table, up to its query. The comment, which stands at the end of
the definition, is written among them. -/
def tableOptions (g : Grammar) : Parser (String → String) := do
  let withOptions ← options? g "WITH"
  let properties ← options? g "TBLPROPERTIES"
  let engine ← if ← keyword? "ENGINE" then do
      symbol "="
      pure (" ENGINE=" ++ (← optionWord))
    else pure ""
  let increment ← if ← keyword? "AUTO_INCREMENT" then do
      let _ ← symbol? "="
      pure (" AUTO_INCREMENT " ++ toString (← wholeNumber))
    else pure ""
  let order ← if ← keywords? ["ORDER", "BY"] then do
      if ← peekSymbol "(" then pure (" ORDER BY (" ++ identList (← columnList true) ++ ")")
      else pure (" ORDER BY (" ++ (← ident).sql ++ ")")
    else pure ""
  let clustering ← if (← dialect) = .generic then do
      let partition ← if ← keywords? ["PARTITION", "BY"] then do
          pure (" PARTITION BY " ++ (← g.expr).sql)
        else pure ""
      let cluster ← listClause ["CLUSTER", "BY"] ident
      let options ← options? g "OPTIONS"
      pure (partition ++ clause " CLUSTER BY " (cluster.map Ident.sql) ""
        ++ clause " OPTIONS(" options ")")
    else pure ""
  return fun comment =>
    clause " TBLPROPERTIES (" properties ")" ++ clause " WITH (" withOptions ")" ++ engine ++ comment
      ++ increment ++ order ++ clustering

/-- A comment on a table, or nothing. -/
def tableComment? : Parser String := do
  unless ← keyword? "COMMENT" do return ""
  let _ ← symbol? "="
  let ts ← get
  match ← next? with
  | some (.singleQuoted s) => return " COMMENT '" ++ s ++ "'"
  | _ => failAt ts "comment"

/-- The options after the query of a table. -/
def closingOptions : Parser String := do
  let setting (words : List String) (text : String) : Parser String := do
    unless ← keywords? words do return ""
    symbol "="
    return text ++ (← optionWord)
  let charset ← setting ["DEFAULT", "CHARSET"] " DEFAULT CHARSET="
  let collation ← setting ["COLLATE"] " COLLATE="
  let onCommit ← do
    if ← keywords? ["ON", "COMMIT", "DELETE", "ROWS"] then pure " ON COMMIT DELETE ROWS"
    else if ← keywords? ["ON", "COMMIT", "PRESERVE", "ROWS"] then pure " ON COMMIT PRESERVE ROWS"
    else if ← keywords? ["ON", "COMMIT", "DROP"] then pure " ON COMMIT DROP"
    else pure ""
  let strict := if ← keyword? "STRICT" then " STRICT" else ""
  return charset ++ collation ++ onCommit ++ strict

/-- A table definition after the word `TABLE`; `words` are those before it, each with a space after
it. -/
def createTable (g : Grammar) (words : String) : Parser CreateTable := do
  let unlessThere ← unlessExists
  let table ← name
  let cluster ← if ← keywords? ["ON", "CLUSTER"] then do
      let ts ← get
      match ← next? with
      | some (.singleQuoted s) => pure (" ON CLUSTER " ++ quoteBraces s)
      | some t@(.word ..) => pure (" ON CLUSTER " ++ quoteBraces t.text)
      | _ => failAt ts "identifier or cluster literal"
    else pure ""
  let like ← if (← oneOf? ["LIKE", "ILIKE"]).isSome then attemptReading name else pure none
  let clone ← if ← keyword? "CLONE" then attemptReading name else pure none
  let (columns, constraints) ← columnDefs g
  let rowid := if ← keywords? ["WITHOUT", "ROWID"] then " WITHOUT ROWID" else ""
  let partition ← partitionColumns g
  let layout ← fileLayout g
  let options ← tableOptions g
  let source ← clause? ["AS"] g.query
  let closing ← closingOptions
  let comment ← tableComment?
  let named (word : String) (n : Option Name) : String :=
    match n with
    | some n => word ++ nameSql n
    | none => ""
  let query := match source with
    | some q => " AS " ++ q.sql
    | none => ""
  return ⟨"CREATE " ++ words ++ "TABLE " ++ unlessThere, table, cluster, columns, constraints,
    source.isNone && like.isNone && clone.isNone,
    rowid ++ named " LIKE " like ++ named " CLONE " clone ++ partition ++ layout.sql ++ options comment
      ++ query ++ closing⟩
where
  /-- A text with quotes around what stands in braces. -/
  quoteBraces (s : String) : String :=
    String.ofList (s.toList.flatMap fun c =>
      if c = '\x7b' then ['\'', c] else if c = '\x7d' then [c, '\''] else [c])

/-- The definition of a table that is kept elsewhere, after the word `TABLE`; `words` are those before it. -/
def createExternalTable (g : Grammar) (words : String) : Parser CreateTable := do
  let unlessThere ← unlessExists
  let table ← name
  let (columns, constraints) ← columnDefs g
  let partition ← partitionColumns g
  let layout ← fileLayout g
  let properties ← options? g "TBLPROPERTIES"
  return ⟨"CREATE " ++ words ++ "TABLE " ++ unlessThere, table, "", columns, constraints, true,
    partition ++ layout.sql ++ clause " TBLPROPERTIES (" properties ")"⟩

end QueryDrill.Sql.Parser
