import QueryDrill.Sql.Grammar.Operand
/-!
Expressions: operands and the operators between them.

`operand` reads one operand. `operation` reads an operator and what follows it, with the expression on
its left at hand, and `expression` repeats it as long as the next operator binds tighter than a given
strength.
-/

namespace QueryDrill.Sql.Parser

open QueryDrill.Sql

/-! ## 1. Operators -/

/-- How a message about an operator without meaning shows a token. -/
def shownToken : Token → String
  | .word v _ k =>
    "Word(Word \x7b value: " ++ Text.shownText v ++ ", quote_style: None, keyword: " ++ k ++ " \x7d)"
  | .symbol "#" => "Sharp"
  | .symbol "<<" => "ShiftLeft"
  | .symbol ">>" => "ShiftRight"
  | .symbol "&&" => "Overlap"
  | .symbol "//" => "DuckIntDiv"
  | .symbol "^@" => "CaretAt"
  | t => t.text

/-- The symbols that stand between two operands in every dialect. -/
def commonOperators : List String :=
  ["<=>", "=", "==", "<>", ">", ">=", "<", "<=", "+", "-", "*", "%", "||", "|", "^", "&", "/", "~", "~*",
   "!~", "!~*", "~~", "~~*", "!~~", "!~~*"]

/-- The symbols that reach into a document. What stands right of one is a whole expression. -/
def documentOperators : List String := ["->", "->>", "#>", "#>>", "@>", "<@", "#-", "@?", "@@"]

/-- The operators that may compare with `ANY` or `ALL` of the rows of something. -/
def quantifiedOperators : List String := [">", "<", ">=", "<=", "=", "<>"]

/-- The operator that a symbol writes between two operands. -/
def binaryOperator? (d : Dialect) (s : String) : Option BinaryOp :=
  if s = "==" then some (.symbol "=")
  else if commonOperators.contains s then some (.symbol s)
  else if s = "//" && d = .generic then some (.symbol s)
  else if (s = "<<" || s = ">>" || s = "&&" || s = "^@") && (d = .postgres || d = .generic) then some (.symbol s)
  else if s = "#" && d = .postgres then some (.symbol s)
  else none

/-- What follows an operator between two operands: an operand, or `ANY` or `ALL` of something. -/
def rightOperand (g : Grammar) (start : List Token) (left : Expr) (op : BinaryOp) (strength : Nat) :
    Parser Expr := do
  match ← oneOf? ["ANY", "ALL"] with
  | some k =>
    symbol "("
    let right ← g.tighter strength
    symbol ")"
    unless quantifiedOperators.contains op.sql do
      refuseAt start ("Expected one of [=, >, <, =>, =<, !=] as comparison operator, found: " ++ op.sql)
    return .form ["", " " ++ op.sql ++ " " ++ k ++ "(", ")"] [left, right]
  | none => return .binary left op (← g.tighter strength)

/-- The parts of an operator that is written by name, in parentheses. -/
def operatorName : Parser String := do
  symbol "("
  let part : Parser String := do
    let t := foundText (← get)
    let _ ← next?
    return t
  let first ← part
  let parts ← repeatWhile (fun ps => do
    if ← symbol? "." then return some ((← part) :: ps) else return none) [first]
  symbol ")"
  return "OPERATOR(" ++ ".".intercalate parts.reverse ++ ")"

/-- A test that `IS` opens. -/
def isTest (g : Grammar) (left : Expr) : Parser Expr := do
  let test (words : String) : Expr := .form ["", " IS " ++ words] [left]
  let distinctFrom (words : String) : Parser Expr := do
    return .form ["", " IS " ++ words ++ " ", ""] [left, ← g.expr]
  if ← keyword? "NULL" then return .nullTest false left
  if ← keywords? ["NOT", "NULL"] then return .nullTest true left
  if ← keyword? "TRUE" then return test "TRUE"
  if ← keywords? ["NOT", "TRUE"] then return test "NOT TRUE"
  if ← keyword? "FALSE" then return test "FALSE"
  if ← keywords? ["NOT", "FALSE"] then return test "NOT FALSE"
  if ← keyword? "UNKNOWN" then return test "UNKNOWN"
  if ← keywords? ["NOT", "UNKNOWN"] then return test "NOT UNKNOWN"
  if ← keywords? ["DISTINCT", "FROM"] then distinctFrom "DISTINCT FROM"
  else if ← keywords? ["NOT", "DISTINCT", "FROM"] then distinctFrom "NOT DISTINCT FROM"
  else fail "[NOT] NULL or TRUE|FALSE or [NOT] DISTINCT FROM after IS"

/-- What follows `IN`. -/
def inTest (g : Grammar) (left : Expr) (negated : Bool) : Parser Expr := do
  let word := if negated then " NOT IN " else " IN "
  if ← keyword? "UNNEST" then
    symbol "("
    let array ← g.expr
    symbol ")"
    return .form ["", word ++ "UNNEST(", ")"] [left, array]
  symbol "("
  if ["SELECT", "WITH"].contains (← peekKeyword) then
    let q ← g.query
    symbol ")"
    return .inSubquery negated left q
  let mayBeEmpty := (← dialect).hasEmptyInList
  if mayBeEmpty then
    if ← symbol? ")" then return .form ["", word ++ "()"] [left]
  let entries ← commaSeparated g.expr
  symbol ")"
  return .ofPieces (.operand left :: .words (word ++ "(") :: Piece.commaList entries ++ [.words ")"])

/-- A pattern and its escape character. Patterns bind tighter than pattern matches. -/
def patternTest (g : Grammar) (left : Expr) (kind : LikeKind) (negated hasEscape : Bool) :
    Parser Expr := do
  let pattern ← g.tighter 19
  let escape ← do
    if !hasEscape then pure none
    else if ← keyword? "ESCAPE" then some <$> literalChar
    else pure none
  return .like kind negated left pattern escape

/-- A test that a word opens, perhaps after `NOT`. -/
def wordTest (g : Grammar) (left : Expr) : Parser Expr := do
  let negated ← keyword? "NOT"
  if ← keyword? "REGEXP" then
    let _ ← keyword? "RLIKE"
    patternTest g left .regexp negated false
  else if ← keyword? "RLIKE" then patternTest g left .rlike negated false
  else if ← keyword? "IN" then inTest g left negated
  else if ← keyword? "BETWEEN" then
    let low ← g.tighter 20
    keyword "AND"
    let high ← g.tighter 20
    return .form ["", if negated then " NOT BETWEEN " else " BETWEEN ", " AND ", ""] [left, low, high]
  else if ← keyword? "LIKE" then patternTest g left .like negated true
  else if ← keyword? "ILIKE" then patternTest g left .ilike negated true
  else if ← keywords? ["SIMILAR", "TO"] then patternTest g left .similar negated true
  else fail "IN or BETWEEN after NOT"

/-- The time zone after `AT`. -/
def timeZone (start : List Token) (left : Expr) : Parser Expr := do
  unless ← keywords? ["TIME", "ZONE"] do failAt start "Expected Token::Word after AT"
  let ts ← get
  match ← next? with
  | some (.singleQuoted s) => return .form ["", " AT TIME ZONE '" ++ s ++ "'"] [left]
  | _ => failAt ts "Expected Token::SingleQuotedString after AT TIME ZONE"

/-- The indices after an opening bracket. -/
def indices (g : Grammar) (left : Expr) : Parser Expr := do
  let index : Parser Expr := do
    let e ← g.expr
    symbol "]"
    return e
  let first ← index
  let is ← repeatWhile (fun is => do
    if ← symbol? "[" then return some ((← index) :: is) else return none) [first]
  return .ofPieces (.operand left :: is.reverse.flatMap fun i => [.words "[", .operand i, .words "]"])

/-- A key in brackets, after the opening one. The closing bracket may be missing. -/
def documentKey (g : Grammar) : Parser (List Piece) := do
  let key : List Piece ← match ← get with
    | .word v _ "" :: ts => do
      set ts
      if ← peekSymbol "(" then pure [.words "[", .operand (← call g [⟨v, none⟩]), .words "]"]
      else pure [.words ("[\"" ++ v ++ "\"]")]
    | .singleQuoted s :: ts => do
      set ts
      pure [.words ("[\"" ++ s ++ "\"]")]
    | .number n _ :: ts => do
      set ts
      pure [.words ("[" ++ n ++ "]")]
    | _ => failReading "literal string, number or function"
  let _ ← symbol? "]"
  return key

/-- The keys after an opening bracket. Only a column has keys; after anything else they have no effect. -/
def documentKeys (g : Grammar) (left : Expr) : Parser Expr := do
  let first ← documentKey g
  let keys ← repeatWhile (fun keys => do
    if ← symbol? "[" then return some ((← documentKey g) :: keys) else return none) [first]
  match left with
  | .column _ => return .ofPieces (.operand left :: keys.reverse.flatten)
  | _ => return left

/-- An operator and what follows it. -/
def operation (g : Grammar) (left : Expr) (strength : Nat) : Parser Expr := do
  let d ← dialect
  let start ← get
  match start with
  | [] => fail "an operator"
  | t :: rest =>
    set rest
    match t with
    | .word _ _ k =>
      if k = "DIV" && d = .mysql then return .binary left (.symbol "DIV") (← g.expr)
      else if k = "AND" then rightOperand g start left .and strength
      else if k = "OR" then rightOperand g start left .or strength
      else if k = "XOR" then rightOperand g start left (.symbol "XOR") strength
      else if k = "OPERATOR" && (d = .postgres || d = .generic) then
        rightOperand g start left (.symbol (← operatorName)) strength
      else if k = "IS" then isTest g left
      else if k = "AT" then timeZone start left
      else if testWords.contains k then
        set start
        wordTest g left
      else refuseAt start ("No infix parser for token " ++ shownToken t)
    | .symbol s =>
      match binaryOperator? d s with
      | some op => rightOperand g start left op strength
      | none =>
        if s = "::" then
          let type ← dataType
          return .form ["CAST(", " AS " ++ type.text ++ ")"] [left]
        else if s = "!" then return .unary (.after "!") left
        else if s = "[" then if d = .mysql then documentKeys g left else indices g left
        else if s = ":" then
          let v ← literal
          return .form ["", ":" ++ v.sql] [left]
        else if documentOperators.contains s then
          return .form ["", " " ++ s ++ " ", ""] [left, ← g.expr]
        else refuseAt start ("No infix parser for token " ++ shownToken t)
    | _ => refuseAt start ("No infix parser for token " ++ shownToken t)
where
  /-- The words that open a test, after the operand that is tested. -/
  testWords : List String := ["NOT", "IN", "BETWEEN", "LIKE", "ILIKE", "SIMILAR", "REGEXP", "RLIKE"]

/-! ## 2. Operands -/

/-- A string after the name of its type. -/
def typedString (g : Grammar) : Parser Expr := do
  let type ← dataType
  match type.kind with
  | .interval => interval g
  | .unknown => fail "a string"
  | .known => return .fixed (type.text ++ " " ++ quoted '\'' (← literalString))

/-- A row literal, after its opening word, `start` being the tokens from that word on. Its entries have names
of their own only where its type names no fields. -/
def rowLiteral (g : Grammar) (start : List Token) : Parser Expr := do
  let (fields, closed) ← rowFields start innerType
  if closed then refuseAt (← get) "unmatched > in STRUCT literal"
  symbol "("
  let entries ← commaSeparated (do
    let e ← g.expr
    let ts ← get
    unless ← keyword? "AS" do return [Piece.operand e]
    unless fields.isEmpty do
      set ts
      refuseAt ts "Typed syntax does not allow AS"
    return [Piece.operand e, .words (" AS " ++ (← ident).sql)])
  symbol ")"
  return .ofPieces (.words (rowTypeText fields ++ "(") :: (entries.intersperse [.words ", "]).flatten
    ++ [.words ")"])

/-- A function of the current time, which may be called without parentheses. -/
def timeFunction (g : Grammar) (callee : Name) : Parser Expr := do
  if ← symbol? "(" then
    let (args, keys) ← orderedArguments g
    return .call callee .plain args none "" none keys
  return .call callee .bare [] none "" none []

/-- A name, a call, or a string with an introducing name. -/
def namedOperand (g : Grammar) (first : Ident) : Parser Expr := do
  let d ← dialect
  let introduces := first.value.startsWith "_"
  match ← peek? with
  | some (.symbol "(") => call g [first]
  | some (.symbol ".") =>
    let (parts, starred) ← nameParts (if d = .postgres then none else some "an identifier after '.'") first
    if starred then return .fixed (nameSql parts ++ ".*")
    if ← peekSymbol "(" then call g parts else return .column parts
  | some (.singleQuoted s) =>
    if introduces then
      let _ ← next?
      return .fixed (first.value ++ " " ++ (Literal.singleQuoted s).sql)
    return .column [first]
  | some (.doubleQuoted s) =>
    if introduces then
      let _ ← next?
      return .fixed (first.value ++ " " ++ (Literal.doubleQuoted s).sql)
    return .column [first]
  | some t@(.prefixed 'X' _) =>
    if introduces then
      let _ ← next?
      return .fixed (first.value ++ " " ++ t.text)
    return .column [first]
  | _ => return .column [first]

/-- The operand that a word opens, `start` being the tokens from the word on. -/
def wordOperand (g : Grammar) (start : List Token) (word : Ident) (k : String) : Parser Expr := do
  let d ← dialect
  match k with
  | "TRUE" => return .literal (.boolean true)
  | "FALSE" => return .literal (.boolean false)
  | "NULL" => return .literal .null
  | "CURRENT_CATALOG" | "CURRENT_USER" | "SESSION_USER" | "USER" =>
    if d = .postgres || d = .generic then return .call [word] .bare [] none "" none []
    namedOperand g word
  | "CURRENT_TIMESTAMP" | "CURRENT_TIME" | "CURRENT_DATE" | "LOCALTIME" | "LOCALTIMESTAMP" =>
    timeFunction g [word]
  | "CASE" => choice g
  | "CONVERT" => convert g
  | "CAST" | "TRY_CAST" | "SAFE_CAST" => cast g k
  | "EXISTS" => enclosedQuery g .exists
  | "EXTRACT" => extract g
  | "CEIL" | "FLOOR" => rounding g k
  | "POSITION" =>
    if ← peekSymbol "(" then position g else namedOperand g word
  | "SUBSTRING" => substring g
  | "OVERLAY" => overlay g
  | "TRIM" => trim g
  | "INTERVAL" => interval g
  | "ARRAY" =>
    if ← symbol? "[" then arrayEntries g "ARRAY"
    else if ← peekSymbol "(" then enclosedQuery g .array
    else namedOperand g word
  | "ARRAY_AGG" => arrayAggregate g
  | "LISTAGG" => listAggregate g
  | "NOT" =>
    if ← keyword? "EXISTS" then enclosedQuery g .notExists
    else return .unary .not (← g.tighter 15)
  | "MATCH" => if d = .mysql || d = .generic then matchAgainst else namedOperand g word
  | "STRUCT" =>
    if d = .generic then rowLiteral g start else namedOperand g word
  | _ => namedOperand g word

/-- An expression, a row or a subquery in parentheses, at the opening one. -/
def enclosedOperand (g : Grammar) : Parser Expr := do
  symbol "("
  let e ← do
    if ["SELECT", "WITH"].contains (← peekKeyword) then pure (.subquery .scalar (← g.query))
    else
      match ← commaSeparated g.expr with
      | [e] => pure (.nested e)
      | es => pure (.ofPieces (.words "(" :: Piece.commaList es ++ [.words ")"]))
  symbol ")"
  unless ← symbol? "." do return e
  let ts ← get
  match ← next? with
  | some (.word v q _) => return .form ["", "." ++ (⟨v, q⟩ : Ident).sql] [e]
  | _ => refuseAt ts ("Expected identifier, found: " ++ foundText ts)

/-- The operand that a symbol opens, `start` being the tokens from the symbol on. -/
def symbolOperand (g : Grammar) (start : List Token) (s : String) : Parser Expr := do
  if s = "[" then arrayEntries g ""
  else if s = "+" || s = "-" then return .unary (.before s) (← g.tighter 40)
  else if rootOperators.contains s && (← dialect) = .postgres then
    return .unary (.before s) (← g.tighter 30)
  else if s = "(" then
    set start
    enclosedOperand g
  else if s = ":" || s = "@" then
    set start
    return .literal (← literal)
  else failAt start "an expression:"
where
  /-- The symbols of operators before their operand. -/
  rootOperators : List String := ["!!", "|/", "||/", "@", "~"]

/-- An operand. A string or an interval that its type opens has no collation. -/
def operand (g : Grammar) : Parser Expr := do
  let d ← dialect
  if let some e ← attempt (typedString g) then return e
  let start ← get
  let e ← match start with
    | [] => fail "an expression:"
    | t :: rest => do
      set rest
      match t with
      | .word v q k => wordOperand g start ⟨v, q⟩ k
      | .symbol s => symbolOperand g start s
      | .escaped _ =>
        if d = .postgres || d = .generic then
          set start
          pure (.literal (← literal))
        else failAt start "an expression:"
      | .stray _ => failAt start "an expression:"
      | _ => do
        set start
        pure (.literal (← literal))
  if ← keyword? "COLLATE" then return .form ["", " COLLATE " ++ nameSql (← name)] [e]
  return e

/-! ## 3. Expressions -/

/-- An expression whose operators bind tighter than `strength`, given the operands and the operators there
are. -/
def expression (operand : Parser Expr) (operation : Expr → Nat → Parser Expr) (strength : Nat) :
    Parser Expr := do
  repeatWhile (fun e => do
    let next ← nextStrength
    if next ≤ strength then return none
    return some (← operation e next)) (← operand)

end QueryDrill.Sql.Parser

namespace QueryDrill.Sql.Grammar

/-- A grammar whose parsers of the level at hand take at most `fuel` steps into one another. -/
def within (g : Grammar) : Nat → Grammar
  | 0 => g
  | fuel + 1 =>
    { g with
      tighter := fun strength s ts => Parser.expression (Parser.operand (g.within fuel))
        (Parser.operation (g.within fuel)) strength s ts
      operand := fun s ts => Parser.operand (g.within fuel) s ts
      operation := fun left strength s ts => Parser.operation (g.within fuel) left strength s ts }

/-- A grammar with parsers for its own level. Each step into one of them reads a token, so there are no more
steps than tokens. -/
def level (g : Grammar) : Grammar :=
  { g with
    tighter := fun strength s ts => (g.within (ts.length + 1)).tighter strength s ts
    operand := fun s ts => (g.within (ts.length + 1)).operand s ts
    operation := fun left strength s ts => (g.within (ts.length + 1)).operation left strength s ts }

end QueryDrill.Sql.Grammar
