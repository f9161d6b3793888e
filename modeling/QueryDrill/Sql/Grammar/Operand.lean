import QueryDrill.Sql.Grammar.DataType
import QueryDrill.Text.Shown
/-!
Literals, calls, windows and the other expressions that are written with words.

Everything here is an operand: an expression as it stands before its operators are taken into account.
-/

namespace QueryDrill.Sql.Parser

open QueryDrill.Sql

/-! ## 1. Literals -/

/-- The text of a string, or a word that is no keyword. -/
def literalString : Parser String := do
  let d ← dialect
  let ts ← get
  match ← next? with
  | some (.word v _ "") => return v
  | some (.singleQuoted s) => return s
  | some (.doubleQuoted s) => return s
  | some (.escaped s) =>
    if d = .postgres || d = .generic then return s else failAt ts "literal string"
  | _ => failAt ts "literal string"

/-- A string of one ASCII character. -/
def literalChar : Parser Char := do
  let ts ← get
  let s ← literalString
  match s.toList with
  | [c] => if c.toNat < 0x80 then return c else refuseAt ts ("Expect a char, found " ++ Text.shownText s)
  | _ => refuseAt ts ("Expect a char, found " ++ Text.shownText s)

/-- The keywords that one dialect also reads as a string without quotes. -/
def bareStrings : List String := ["LOCATION", "TYPE", "DATE", "START", "END"]

/-- A literal. -/
def literal : Parser Literal := do
  let d ← dialect
  let ts ← get
  match ← next? with
  | some (.word v q k) =>
    if k = "TRUE" then return .boolean true
    else if k = "FALSE" then return .boolean false
    else if k = "NULL" then return .null
    else if k = "" && q.isSome then
      if q = some '"' then return .doubleQuoted v else failAt ts "A value?"
    else if d = .generic && (k = "" || bareStrings.contains k) then return .verbatim v
    else failAt ts "a concrete value"
  | some (.number n long) => return .number n long
  | some (.singleQuoted s) => return .singleQuoted s
  | some (.doubleQuoted s) => return .doubleQuoted s
  | some (.escaped s) => return .escaped s
  | some (.dollarQuoted tag s) => return .verbatim (Token.dollarQuoted tag s).text
  | some (.prefixed c s) => return .verbatim (Token.prefixed c s).text
  | some (.doubleQuotedBytes s) => return .verbatim (Token.doubleQuotedBytes s).text
  | some (.placeholder s) => return .verbatim s
  | some (.symbol s) =>
    if s = ":" || s = "@" then
      let ts ← get
      match ← next? with
      | some (.word v _ _) => return .verbatim (s ++ v)
      | some (.number n false) => return .verbatim (s ++ n)
      | _ => failAt ts "placeholder"
    else failAt ts "a value"
  | _ => failAt ts "a value"

/-- The fields that an interval may be written in. -/
def intervalUnits : List String :=
  ["YEAR", "MONTH", "WEEK", "DAY", "HOUR", "MINUTE", "SECOND", "CENTURY", "DECADE", "DOY", "DOW", "EPOCH",
   "ISODOW", "ISOYEAR", "JULIAN", "MICROSECOND", "MICROSECONDS", "MILLENIUM", "MILLENNIUM", "MILLISECOND",
   "MILLISECONDS", "NANOSECOND", "NANOSECONDS", "QUARTER", "TIMEZONE", "TIMEZONE_HOUR", "TIMEZONE_MINUTE"]

/-- The fields that only a date or a time has. -/
def dateParts : List String :=
  ["DAYOFWEEK", "DAYOFYEAR", "DATE", "ISOWEEK", "TIME", "TIMEZONE_ABBR", "TIMEZONE_REGION"]

/-- A field of a date or a time. -/
def dateField : Parser String := do
  let k ← peekKeyword
  unless intervalUnits.contains k || dateParts.contains k do failReading "date/time field"
  let _ ← next?
  return k

/-! ## 2. Calls -/

/-- The parts of a name after its first one, up to a `.*` at its end; whether there was one. Where
`starFault` holds a message, a star is refused with it. -/
def nameParts (starFault : Option String) (first : Ident) : Parser (Name × Bool) := do
  let (parts, starred) ← repeatWhile (fun (parts, starred) => do
    if starred then return none
    unless ← symbol? "." do return none
    let ts ← get
    match ← next? with
    | some (.word v q _) => return some ((⟨v, q⟩ : Ident) :: parts, false)
    | some (.singleQuoted s) => return some (⟨s, some '\''⟩ :: parts, false)
    | some (.symbol "*") =>
      match starFault with
      | some what => failAt ts what
      | none => return some (parts, true)
    | _ => failAt ts "an identifier or a '*' after '.'") ([first], false)
  return (parts.reverse, starred)

/-- A name with `.*` after it, or an expression. The name is empty for `*` alone. -/
def wildcardOrExpr (g : Grammar) : Parser (Name ⊕ Expr) := do
  let ts ← get
  match ts with
  | .symbol "*" :: r =>
    set r
    return .inl []
  | t :: r@(.symbol "." :: _) =>
    let first := match t with
      | .word v q _ => some (⟨v, q⟩ : Ident)
      | .singleQuoted s => some ⟨s, some '\''⟩
      | _ => none
    match first with
    | none => return .inr (← g.expr)
    | some i =>
      set r
      let (parts, starred) ← nameParts none i
      if starred then return .inl parts
      set ts
      return .inr (← g.expr)
  | _ => return .inr (← g.expr)

/-- A wildcard as an argument. -/
def wildcardArgument (n : Name) : Expr := .fixed (if n.isEmpty then "*" else nameSql n ++ ".*")

/-- An argument of a call, perhaps with its name. -/
def argument (g : Grammar) : Parser Expr := do
  let plain : Parser Expr := do
    match ← wildcardOrExpr g with
    | .inl n => return wildcardArgument n
    | .inr e => return e
  if (← peekAt? 1) = some (.symbol "=>") then
    let i ← ident
    symbol "=>"
    return .form [i.sql ++ " => ", ""] [← plain]
  plain

/-- The arguments of a call without an order, after the opening parenthesis. -/
def arguments (g : Grammar) : Parser (List Expr) := do
  if ← symbol? ")" then return []
  let args ← commaSeparated (argument g)
  symbol ")"
  return args

/-- An entry of `ORDER BY`. -/
def sortKey (g : Grammar) : Parser SortKey := do
  let e ← g.expr
  let ascending ← do
    if ← keyword? "ASC" then pure (some true)
    else if ← keyword? "DESC" then pure (some false)
    else pure none
  let nullsFirst ← do
    if ← keywords? ["NULLS", "FIRST"] then pure (some true)
    else if ← keywords? ["NULLS", "LAST"] then pure (some false)
    else pure none
  return ⟨e, ⟨ascending, nullsFirst⟩⟩

/-- An `ORDER BY` clause, or nothing. -/
def orderBy? (g : Grammar) : Parser (List SortKey) := do
  if ← keywords? ["ORDER", "BY"] then commaSeparated (sortKey g) else return []

/-- The arguments of a call and their order, after the opening parenthesis. -/
def orderedArguments (g : Grammar) : Parser (List Expr × List SortKey) := do
  if ← symbol? ")" then return ([], [])
  let args ← commaSeparated (argument g)
  let keys ← orderBy? g
  symbol ")"
  return (args, keys)

/-- `DISTINCT`, perhaps with the expressions that tell rows apart; `ALL` stands for neither. -/
def distinct? (g : Grammar) : Parser (Option Expr) := do
  let start ← get
  let all ← keyword? "ALL"
  unless ← keyword? "DISTINCT" do return none
  if all then refuseAt start "Cannot specify both ALL and DISTINCT"
  unless ← keyword? "ON" do return some (.fixed "DISTINCT")
  symbol "("
  let es ← if ← peekSymbol ")" then pure [] else commaSeparated g.expr
  symbol ")"
  return some (.ofPieces (.words "DISTINCT ON (" :: Piece.commaList es ++ [.words ")"]))

/-! ## 3. Intervals and windows -/

/-- How tightly the operator at the front binds; zero if there is none. -/
def nextStrength : Parser Nat := do
  match ← get with
  | .word _ _ k :: r =>
    if k = "OR" then return 5
    else if k = "AND" then return 10
    else if k = "XOR" then return 24
    else if k = "AT" then return if (afterKeywords? ["TIME", "ZONE"] r).isSome then 20 else 0
    else if k = "NOT" then
      match r with
      | t :: _ =>
        if t.keyword = "IN" || t.keyword = "BETWEEN" then return 20
        else if likeWords.contains t.keyword then return 19
        else return 0
      | [] => return 0
    else if k = "IS" then return 17
    else if k = "IN" || k = "BETWEEN" || k = "OPERATOR" then return 20
    else if likeWords.contains k then return 19
    else if k = "DIV" then return 40
    else return 0
  | .symbol s :: _ => return (symbolStrengths.lookup s).getD 0
  | _ => return 0
where
  /-- The words of pattern matches. -/
  likeWords : List String := ["LIKE", "ILIKE", "RLIKE", "REGEXP", "SIMILAR"]
  /-- How tightly each symbol binds. -/
  symbolStrengths : List (String × Nat) :=
    [("=", 20), ("<", 20), ("<=", 20), ("<>", 20), (">", 20), (">=", 20), ("==", 20), ("~", 20),
     ("~*", 20), ("!~", 20), ("!~*", 20), ("~~", 20), ("~~*", 20), ("!~~", 20), ("!~~*", 20), ("<=>", 20), ("|", 21), ("^", 22), ("#", 22), (">>", 22),
     ("<<", 22), ("&", 23), ("+", 30), ("-", 30), ("*", 40), ("/", 40), ("//", 40), ("%", 40), ("||", 40),
     ("::", 50), (":", 50), ("!", 50), ("[", 50), ("&&", 50), ("->>", 50), ("->", 50), ("#>", 50),
     ("#>>", 50), ("@>", 50), ("<@", 50), ("#-", 50), ("@?", 50), ("@@", 50), ("^@", 50)]

/-- The strength of the next operator inside an interval, where a connective ends the value. -/
def nextIntervalStrength : Parser Nat := do
  if ["AND", "OR", "XOR"].contains (← peekKeyword) then return 0 else nextStrength

/-- The precision of the leading field and of the seconds, in parentheses, or nothing. -/
def leadingPrecision? : Parser (Option Nat × Option Nat) := do
  unless ← symbol? "(" do return (none, none)
  let n ← wholeNumber
  let scale ← if ← symbol? "," then some <$> wholeNumber else pure none
  symbol ")"
  return (some n, scale)

/-- The pieces of an interval after its value: the fields it is written in. -/
def intervalFields : Parser String := do
  let leading ← do
    if intervalUnits.contains (← peekKeyword) then some <$> dateField else pure none
  let field := match leading with
    | some f => " " ++ f
    | none => ""
  if leading = some "SECOND" then
    match ← leadingPrecision? with
    | (some p, some s) => return field ++ " (" ++ toString p ++ ", " ++ toString s ++ ")"
    | (some p, none) => return field ++ " (" ++ toString p ++ ")"
    | _ => return field
  let precision ← precision?
  let field := if precision = "" then field else field ++ " " ++ precision
  unless ← keyword? "TO" do return field
  let last ← dateField
  let seconds ← if last = "SECOND" then precision? else pure ""
  return field ++ " TO " ++ last ++ (if seconds = "" then "" else " " ++ seconds)

/-- An interval, after its opening word. -/
def interval (g : Grammar) : Parser Expr := do
  let first ← g.operand
  let value ← repeatWhile (fun e => do
    let strength ← nextIntervalStrength
    if strength = 0 then return none
    return some (← g.operation e strength)) first
  return .form ["INTERVAL ", ← intervalFields] [value]

/-- A bound of a window frame. -/
def frameBound (g : Grammar) : Parser (List Piece) := do
  if ← keywords? ["CURRENT", "ROW"] then return [.words "CURRENT ROW"]
  let distance : List Piece ← do
    if ← keyword? "UNBOUNDED" then pure [.words "UNBOUNDED"]
    else
      match ← peek? with
      | some (.singleQuoted _) => pure [.operand (← interval g)]
      | _ => pure [.operand (← g.expr)]
  if ← keyword? "PRECEDING" then return distance ++ [.words " PRECEDING"]
  if ← keyword? "FOLLOWING" then return distance ++ [.words " FOLLOWING"]
  fail "PRECEDING or FOLLOWING"

/-- The frame of a window. -/
def windowFrame (g : Grammar) : Parser (List Piece) := do
  let units ← peekKeyword
  unless ["ROWS", "RANGE", "GROUPS"].contains units do failReading "ROWS, RANGE, GROUPS"
  let _ ← next?
  if ← keyword? "BETWEEN" then
    let first ← frameBound g
    keyword "AND"
    let last ← frameBound g
    return .words (units ++ " BETWEEN ") :: first ++ .words " AND " :: last
  return .words (units ++ " ") :: (← frameBound g)

/-- The pieces of sort keys. -/
def sortPieces : List SortKey → List Piece
  | [] => []
  | [k] => [.operand k.expr, .words k.order.sql]
  | k :: ks => .operand k.expr :: .words (k.order.sql ++ ", ") :: sortPieces ks

/-- The description of a window, after the opening parenthesis and with the closing one. -/
def windowSpec (g : Grammar) : Parser (List Piece) := do
  let partition ← if ← keywords? ["PARTITION", "BY"] then commaSeparated g.expr else pure []
  let keys ← orderBy? g
  let frame ← if ← symbol? ")" then pure [] else do
    let frame ← windowFrame g
    symbol ")"
    pure frame
  let partition := if partition.isEmpty then [] else .words "PARTITION BY " :: Piece.commaList partition
  let keys := if keys.isEmpty then [] else .words "ORDER BY " :: sortPieces keys
  let parts := [partition, keys, frame].filter fun p => !p.isEmpty
  return (parts.intersperse [.words " "]).flatten

/-- A call, at its opening parenthesis. -/
def call (g : Grammar) (callee : Name) : Parser Expr := do
  symbol "("
  let distinct := (← distinct? g).isSome
  let (args, keys) ← orderedArguments g
  let filter ← do
    if !(← dialect).hasAggregateFilter then pure none
    else if !(← keyword? "FILTER") then pure none
    else if !(← symbol? "(") then pure none
    else if !(← keyword? "WHERE") then pure none
    else
      let e ← g.expr
      symbol ")"
      pure (some e)
  let nulls ← do
    match ← oneOf? ["RESPECT", "IGNORE"] with
    | some k =>
      keyword "NULLS"
      pure (" " ++ k ++ " NULLS")
    | none => pure ""
  let window ← do
    if ← keyword? "OVER" then
      if ← symbol? "(" then
        let spec ← windowSpec g
        pure (some (.ofPieces (.words "(" :: spec ++ [.words ")"])))
      else pure (some (.fixed (← ident).sql))
    else pure none
  return .call callee (if distinct then .distinct else .plain) args filter nulls window keys

/-! ## 4. Expressions with words of their own -/

/-- `CASE`, after its opening word. -/
def choice (g : Grammar) : Parser Expr := do
  let operand ← do
    if ← keyword? "WHEN" then pure none
    else
      let e ← g.expr
      keyword "WHEN"
      pure (some e)
  let branch : Parser (Expr × Expr) := do
    let condition ← g.expr
    keyword "THEN"
    return (condition, ← g.expr)
  let first ← branch
  let branches ← repeatWhile (fun bs => do
    if ← keyword? "WHEN" then return some ((← branch) :: bs) else return none) [first]
  let otherwise ← if ← keyword? "ELSE" then some <$> g.expr else pure none
  keyword "END"
  let branches := branches.reverse
  return .choice operand (branches.map Prod.fst) (branches.map Prod.snd) otherwise

/-- `CAST` and its relatives, after the opening word. -/
def cast (g : Grammar) (word : String) : Parser Expr := do
  symbol "("
  let e ← g.expr
  keyword "AS"
  let t ← dataType
  let format ← do
    if ← keyword? "FORMAT" then
      let f ← literal
      if ← keywords? ["AT", "TIME", "ZONE"] then
        pure (" FORMAT " ++ f.sql ++ " AT TIME ZONE " ++ (← literal).sql)
      else pure (" FORMAT " ++ f.sql)
    else pure ""
  symbol ")"
  return .form [word ++ "(", " AS " ++ t.text ++ format ++ ")"] [e]

/-- `CONVERT`, after its opening word. -/
def convert (g : Grammar) : Parser Expr := do
  symbol "("
  let e ← g.expr
  if ← keyword? "USING" then
    let charset ← name
    symbol ")"
    return .form ["CONVERT(", " USING " ++ nameSql charset ++ ")"] [e]
  symbol ","
  let t ← dataType
  let charset ← if ← keywords? ["CHARACTER", "SET"] then pure (" CHARACTER SET " ++ nameSql (← name))
    else pure ""
  symbol ")"
  return .form ["CONVERT(", ", " ++ t.text ++ charset ++ ")"] [e]

/-- A subquery in parentheses. -/
def enclosedQuery (g : Grammar) (shape : SubqueryShape) : Parser Expr := do
  symbol "("
  let q ← g.query
  symbol ")"
  return .subquery shape q

/-- `EXTRACT`, after its opening word. -/
def extract (g : Grammar) : Parser Expr := do
  symbol "("
  let field ← dateField
  keyword "FROM"
  let e ← g.expr
  symbol ")"
  return .form ["EXTRACT(" ++ field ++ " FROM ", ")"] [e]

/-- `CEIL` or `FLOOR`, after its opening word. -/
def rounding (g : Grammar) (word : String) : Parser Expr := do
  symbol "("
  let e ← g.expr
  let field ← if ← keyword? "TO" then pure (" TO " ++ (← dateField)) else pure ""
  symbol ")"
  return .form [word ++ "(", field ++ ")"] [e]

/-- `POSITION`, after its opening word. -/
def position (g : Grammar) : Parser Expr := do
  symbol "("
  let e ← g.tighter 20
  unless ← keyword? "IN" do refuseAt (← get) "Position function must include IN keyword"
  let within ← g.expr
  symbol ")"
  return .form ["POSITION(", " IN ", ")"] [e, within]

/-- `SUBSTRING`, after its opening word. A comma stands for either word. -/
def substring (g : Grammar) : Parser Expr := do
  symbol "("
  let e ← g.expr
  let clause (word : String) : Parser (List Piece) := do
    if ← keyword? word then return [.words (" " ++ word ++ " "), .operand (← g.expr)]
    if ← symbol? "," then return [.words (" " ++ word ++ " "), .operand (← g.expr)]
    return []
  let start ← clause "FROM"
  let length ← clause "FOR"
  symbol ")"
  return .ofPieces (.words "SUBSTRING(" :: .operand e :: start ++ length ++ [.words ")"])

/-- `OVERLAY`, after its opening word. -/
def overlay (g : Grammar) : Parser Expr := do
  symbol "("
  let e ← g.expr
  keyword "PLACING"
  let what ← g.expr
  keyword "FROM"
  let start ← g.expr
  let length : List Piece ←
    if ← keyword? "FOR" then pure [.words " FOR ", .operand (← g.expr)] else pure []
  symbol ")"
  return .ofPieces ([.words "OVERLAY(", .operand e, .words " PLACING ", .operand what, .words " FROM ",
    .operand start] ++ length ++ [.words ")"])

/-- `TRIM`, after its opening word. -/
def trim (g : Grammar) : Parser Expr := do
  symbol "("
  let side ← oneOf? ["BOTH", "LEADING", "TRAILING"]
  let side := match side with
    | some s => s ++ " "
    | none => ""
  let e ← g.expr
  if ← keyword? "FROM" then
    let text ← g.expr
    symbol ")"
    return .trimOf side e text
  if ← symbol? "," then
    if (← dialect) = .generic then
      let characters ← commaSeparated g.expr
      symbol ")"
      return .ofPieces (.words "TRIM(" :: .operand e :: .words ", " :: Piece.commaList characters
        ++ [.words ")"])
  symbol ")"
  return .form ["TRIM(" ++ side, ")"] [e]

/-- `ARRAY_AGG`, after its opening word. -/
def arrayAggregate (g : Grammar) : Parser Expr := do
  symbol "("
  let word := if ← keyword? "DISTINCT" then "ARRAY_AGG(DISTINCT " else "ARRAY_AGG("
  let e ← g.expr
  let keys ← orderBy? g
  let limit : List Piece ← do
    if ← keyword? "LIMIT" then
      if ← keyword? "ALL" then pure [] else pure [.words " LIMIT ", .operand (← g.expr)]
    else pure []
  symbol ")"
  let keys := if keys.isEmpty then [] else .words " ORDER BY " :: sortPieces keys
  return .ofPieces (.words word :: .operand e :: keys ++ limit ++ [.words ")"])

/-- `LISTAGG`, after its opening word. -/
def listAggregate (g : Grammar) : Parser Expr := do
  symbol "("
  let word := if (← distinct? g).isSome then "LISTAGG(DISTINCT " else "LISTAGG("
  let e ← g.expr
  let separator : List Piece ←
    if ← symbol? "," then pure [.words ", ", .operand (← g.expr)] else pure []
  let overflow : List Piece ← do
    if !(← keywords? ["ON", "OVERFLOW"]) then pure []
    else if ← keyword? "ERROR" then pure [.words " ON OVERFLOW ERROR"]
    else
      keyword "TRUNCATE"
      let filler : List Piece ← do
        match ← peek? with
        | some (.singleQuoted _) | some (.escaped _) | some (.prefixed 'N' _) | some (.prefixed 'X' _) =>
          pure [.words " ", .operand (← g.expr)]
        | _ =>
          unless ["WITH", "WITHOUT"].contains (← peekKeyword) do
            fail "either filler, WITH, or WITHOUT in LISTAGG"
          pure []
      let count ← do
        if ← keyword? "WITH" then pure " WITH"
        else if ← keyword? "WITHOUT" then pure " WITHOUT"
        else fail "either WITH or WITHOUT in LISTAGG"
      keyword "COUNT"
      pure (.words " ON OVERFLOW TRUNCATE" :: filler ++ [.words (count ++ " COUNT")])
  symbol ")"
  let within : List Piece ← do
    if ← keywords? ["WITHIN", "GROUP"] then
      symbol "("
      keywords ["ORDER", "BY"]
      let keys ← commaSeparated (sortKey g)
      symbol ")"
      pure (.words " WITHIN GROUP (ORDER BY " :: sortPieces keys ++ [.words ")"])
    else pure []
  return .ofPieces (.words word :: .operand e :: separator ++ overflow ++ .words ")" :: within)

/-- `MATCH … AGAINST`, after its opening word. -/
def matchAgainst : Parser Expr := do
  let columns ← columnList false
  keyword "AGAINST"
  symbol "("
  let v ← literal
  let mode ← do
    if ← keywords? ["IN", "NATURAL", "LANGUAGE", "MODE"] then
      if ← keywords? ["WITH", "QUERY", "EXPANSION"] then
        pure " IN NATURAL LANGUAGE MODE WITH QUERY EXPANSION"
      else pure " IN NATURAL LANGUAGE MODE"
    else if ← keywords? ["IN", "BOOLEAN", "MODE"] then pure " IN BOOLEAN MODE"
    else if ← keywords? ["WITH", "QUERY", "EXPANSION"] then pure " WITH QUERY EXPANSION"
    else pure ""
  symbol ")"
  return .fixed ("MATCH (" ++ identList columns ++ ") AGAINST (" ++ v.sql ++ mode ++ ")")

/-- The entries of an array in brackets, after the opening one. -/
def arrayEntries (g : Grammar) (word : String) : Parser Expr := do
  if ← symbol? "]" then return .fixed (word ++ "[]")
  let es ← commaSeparated g.expr
  symbol "]"
  return .ofPieces (.words (word ++ "[") :: Piece.commaList es ++ [.words "]"])

end QueryDrill.Sql.Parser
