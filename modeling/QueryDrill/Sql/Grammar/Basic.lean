import QueryDrill.Sql.Token
import QueryDrill.Sql.Dialect
import QueryDrill.Sql.Syntax
/-!
The parser type and its building blocks.

A parser reads a list of tokens and leaves the rest of it. A choice that may fail starts again from
the list it was given, so nothing has to be undone. Where a parser fails it records how many tokens
were left: together with the tokens of the text that names the place, and the parsers themselves know
no positions.

Recursion through expressions, queries and statements goes through a `Grammar`, which holds the
parsers of one nesting level deeper. A grammar of level zero refuses everything, so the level bounds
how deep a text may nest. Operands and operators recurse on the level at hand, which costs nothing; that
recursion, like all other, consumes tokens and ends because the rest gets shorter.
-/

namespace QueryDrill.Sql

/-! ## 1. Faults and the parser type -/

/-- Why tokens do not form a statement. -/
inductive SyntaxFault where
  /-- Something else was expected where `left` tokens remain. -/
  | expected (what : String) (left : Nat)
  /-- The text nests deeper than the limit. -/
  | tooDeep
  /-- A construct breaks a rule of its own, perhaps with the number of tokens left at its place. -/
  | refused (reason : String) (left : Option Nat)
  deriving DecidableEq, Repr

/-- A part of a form: fixed words, or an operand. -/
inductive Piece where
  | words (text : String)
  | operand (e : Expr)

/-- The words and the operands of a run of pieces; words that stand side by side are joined. -/
def Piece.split : List Piece → List String × List Expr
  | [] => ([""], [])
  | .words s :: ps =>
    match Piece.split ps with
    | (w :: ws, es) => ((s ++ w) :: ws, es)
    | ([], es) => ([s], es)
  | .operand e :: ps =>
    let (ws, es) := Piece.split ps
    ("" :: ws, e :: es)

/-- The form that pieces make. -/
def Expr.ofPieces (ps : List Piece) : Expr :=
  let (ws, es) := Piece.split ps
  .form ws es

/-- A form without operands. -/
def Expr.fixed (text : String) : Expr := .form [text] []

/-- Operands with commas between them. -/
def Piece.commaList : List Expr → List Piece
  | [] => []
  | [e] => [.operand e]
  | e :: es => .operand e :: .words ", " :: Piece.commaList es

/-- A failure: its cause, and how many tokens were left when it arose. Where the cause names a token that
the failed parser had read already, fewer tokens are left than the cause says. -/
structure Stop where
  fault : SyntaxFault
  unread : Nat
  deriving DecidableEq, Repr

/-- What a text is read by: its dialect, and its lexemes for the few forms in which blanks count. -/
structure Setting where
  dialect : Dialect
  lexemes : List Lexeme

/-- A parser: the setting and the tokens go in, a value and the rest of the tokens come out. -/
abbrev Parser (α : Type) := ReaderT Setting (StateT (List Token) (Except Stop)) α

/-- The parsers that a form is read with. Those for whole expressions, queries and statements are of one
nesting level deeper; an operand and an operator stay on the level at hand. -/
structure Grammar where
  /-- A whole expression. -/
  expr : Parser Expr
  query : Parser Query
  statement : Parser Statement
  /-- An expression of the level at hand whose operators bind tighter than the given strength. -/
  tighter : Nat → Parser Expr
  /-- An expression of the level at hand without operators. -/
  operand : Parser Expr
  /-- An operator of the level at hand with the given strength, and what follows it; the expression on
  its left is given. -/
  operation : Expr → Nat → Parser Expr

namespace Parser

variable {α β : Type}

/-- The dialect of the text. -/
def dialect : Parser Dialect := do return (← read).dialect

/-! ## 2. Failure and choice -/

/-- Fails with a fault. -/
def stop (fault : SyntaxFault) : Parser α := do throw ⟨fault, (← get).length⟩

/-- Fails at the tokens `at_`. -/
def failAt (at_ : List Token) (what : String) : Parser α := stop (.expected what at_.length)

/-- Fails at the next token. -/
def fail (what : String) : Parser α := do failAt (← get) what

/-- Fails at the next token, which is read. -/
def failReading (what : String) : Parser α := do
  let ts ← get
  set (ts.drop 1)
  failAt ts what

/-- Fails for a reason of its own, at the tokens `at_`. -/
def refuseAt (at_ : List Token) (reason : String) : Parser α :=
  stop (.refused reason (some at_.length))

/-- Fails for a reason of its own, without a place. -/
def refuse (reason : String) : Parser α := stop (.refused reason none)

/-- What a parser finds, or none and no token read when it fails. -/
def attempt (p : Parser α) : Parser (Option α) := fun s ts =>
  match p s ts with
  | .ok (a, rest) => .ok (some a, rest)
  | .error _ => .ok (none, ts)

/-- What a parser finds, or none when it fails; what it had read then stays read. -/
def attemptReading (p : Parser α) : Parser (Option α) := fun s ts =>
  match p s ts with
  | .ok (a, rest) => .ok (some a, rest)
  | .error e => .ok (none, ts.drop (ts.length - e.unread))

/-- Repeats a step until it yields none. A step that reads nothing ends the repetition too. -/
def repeatWhile (step : α → Parser (Option α)) (a : α) : Parser α := fun s ts =>
  match step a s ts with
  | .error e => .error e
  | .ok (none, rest) => .ok (a, rest)
  | .ok (some b, rest) =>
    if rest.length < ts.length then repeatWhile step b s rest else .ok (b, rest)
termination_by _ ts => ts.length

/-! ## 3. Tokens and keywords -/

/-- The next token, which stays. -/
def peek? : Parser (Option Token) := do return (← get).head?

/-- The token `n` places further on, which stays. -/
def peekAt? (n : Nat) : Parser (Option Token) := do return (← get)[n]?

/-- The keyword of the next token; empty if it has none. -/
def peekKeyword : Parser String := do
  match ← get with
  | t :: _ => return t.keyword
  | [] => return ""

/-- Whether the next token is a symbol. -/
def peekSymbol (s : String) : Parser Bool := do return (← get).head? == some (.symbol s)

/-- Reads the next token; at the end there is none. -/
def next? : Parser (Option Token) := do
  let ts ← get
  set (ts.drop 1)
  return ts.head?

/-- Reads a symbol if it comes next. -/
def symbol? (s : String) : Parser Bool := do
  match ← get with
  | t :: ts => if t = .symbol s then set ts; return true else return false
  | [] => return false

/-- Reads a symbol. -/
def symbol (s : String) : Parser Unit := do
  unless ← symbol? s do fail s

/-- Reads a keyword if it comes next. -/
def keyword? (k : String) : Parser Bool := do
  match ← get with
  | t :: ts => if t.keyword = k then set ts; return true else return false
  | [] => return false

/-- The tokens after a run of keywords, if they all come next. -/
def afterKeywords? : List String → List Token → Option (List Token)
  | [], ts => some ts
  | _ :: _, [] => none
  | k :: ks, t :: ts => if t.keyword = k then afterKeywords? ks ts else none

/-- Reads a run of keywords if they all come next. -/
def keywords? (ks : List String) : Parser Bool := do
  match afterKeywords? ks (← get) with
  | some ts => set ts; return true
  | none => return false

/-- Reads a keyword. -/
def keyword (k : String) : Parser Unit := do
  unless ← keyword? k do fail k

/-- Reads a run of keywords. -/
def keywords (ks : List String) : Parser Unit := ks.forM keyword

/-- Reads one of the keywords if it comes next. -/
def oneOf? (ks : List String) : Parser (Option String) := do
  match ← get with
  | t :: ts => if t.keyword ≠ "" && ks.contains t.keyword then set ts; return some t.keyword else return none
  | [] => return none

/-- Reads one of the keywords. -/
def oneOf (ks : List String) : Parser String := do
  match ← oneOf? ks with
  | some k => return k
  | none => fail ("one of " ++ " or ".intercalate ks)

/-- A word and a space if a keyword comes next. -/
def word? (k : String) : Parser String := do return if ← keyword? k then k ++ " " else ""

/-- `IF EXISTS` and a space, or nothing. -/
def ifExists : Parser String := do
  return if ← keywords? ["IF", "EXISTS"] then "IF EXISTS " else ""

/-- `IF NOT EXISTS` and a space, or nothing. -/
def unlessExists : Parser String := do
  return if ← keywords? ["IF", "NOT", "EXISTS"] then "IF NOT EXISTS " else ""

/-! ## 4. Lists -/

/-- Entries with commas between them, at least one. -/
def commaSeparated (p : Parser α) : Parser (List α) := do
  let first ← p
  let rest ← repeatWhile (fun entries => do
    if ← symbol? "," then return some ((← p) :: entries) else return none) []
  return first :: rest.reverse

/-- Something in parentheses. -/
def parenthesized (p : Parser α) : Parser α := do
  symbol "("
  let a ← p
  symbol ")"
  return a

/-- Statements with semicolons between them. They end with the text, or with the word `END` where a
statement is complete. -/
def statementList (statement : Parser α) : Parser (List α) := do
  let (found, _, _) ← repeatWhile (fun (found, complete, done) => do
    if done then return none
    if ← symbol? ";" then return some (found, false, false)
    match ← peek? with
    | none => return none
    | some t =>
      if complete then
        if t.keyword = "END" then return none
        fail "end of statement"
      return some ((← statement) :: found, true, false))
    (([] : List α), false, false)
  return found.reverse

/-! ## 5. Names -/

/-- The name that a word token writes. -/
def identOf? : Token → Option Ident
  | .word v q _ => some ⟨v, q⟩
  | .singleQuoted s => some ⟨s, some '\''⟩
  | .doubleQuoted s => some ⟨s, some '"'⟩
  | _ => none

/-- A name. -/
def ident : Parser Ident := do
  let ts ← get
  match (← next?).bind identOf? with
  | some i => return i
  | none => failAt ts "identifier"

/-- A name in parts. -/
def name : Parser Name := do
  let first ← ident
  let rest ← repeatWhile (fun parts => do
    if ← symbol? "." then return some ((← ident) :: parts) else return none) []
  return first :: rest.reverse

/-- A list of names in parentheses. -/
def columnList (mayBeEmpty : Bool) : Parser (List Ident) := do
  if ← symbol? "(" then
    if mayBeEmpty then
      if ← symbol? ")" then return []
    let columns ← commaSeparated ident
    symbol ")"
    return columns
  fail "a list of columns in parentheses"

/-- A list of names in parentheses, or nothing. -/
def columnList? (mayBeEmpty : Bool) : Parser (List Ident) := do
  if ← peekSymbol "(" then columnList mayBeEmpty else return []

/-- A name after an optional `AS`. Without `AS` a reserved word is no name. -/
def label? (reserved : List String) : Parser (Option Ident) := do
  let afterAs ← keyword? "AS"
  let ts ← get
  match ts with
  | .word v q k :: r =>
    if afterAs || !(k ≠ "" && reserved.contains k) then
      set r
      return some ⟨v, q⟩
    return none
  | .singleQuoted s :: r =>
    set r
    return some ⟨s, some '\''⟩
  | .doubleQuoted s :: r =>
    set r
    return some ⟨s, some '"'⟩
  | _ => if afterAs then failAt ts "an identifier after AS" else return none

/-- The words that may not name a column without `AS`. -/
def reservedForColumn : List String :=
  ["WITH", "EXPLAIN", "ANALYZE", "SELECT", "WHERE", "GROUP", "SORT", "HAVING", "ORDER", "TOP", "LATERAL",
   "VIEW", "LIMIT", "OFFSET", "FETCH", "UNION", "EXCEPT", "INTERSECT", "CLUSTER", "DISTRIBUTE", "FROM",
   "INTO", "END"]

/-- The words that may not name a source without `AS`. -/
def reservedForSource : List String :=
  ["WITH", "EXPLAIN", "ANALYZE", "SELECT", "WHERE", "GROUP", "SORT", "HAVING", "ORDER", "PIVOT", "UNPIVOT",
   "TOP", "LATERAL", "VIEW", "LIMIT", "OFFSET", "FETCH", "UNION", "EXCEPT", "INTERSECT", "ON", "JOIN",
   "INNER", "CROSS", "FULL", "LEFT", "RIGHT", "NATURAL", "USING", "CLUSTER", "DISTRIBUTE", "OUTER", "SET",
   "QUALIFY", "WINDOW", "END", "FOR", "PARTITION"]

/-- The name of a source with its column list. -/
def sourceAlias? : Parser (Option TableAlias) := do
  match ← label? reservedForSource with
  | some name => return some ⟨name, ← columnList? false⟩
  | none => return none

/-! ## 6. Literal pieces -/

/-- A number that fits into 64 bits, as text. -/
def wholeNumber : Parser Nat := do
  let ts ← get
  match ← next? with
  | some (.number s _) =>
    match s.toList.mapM (digitValue? · ) with
    | some [] => refuse ("Could not parse '" ++ s ++ "' as u64: cannot parse integer from empty string")
    | some ds =>
      let n := ds.foldl (fun n d => n * 10 + d) 0
      if n < UInt64.size then return n
      refuse ("Could not parse '" ++ s ++ "' as u64: number too large to fit in target type")
    | none => refuse ("Could not parse '" ++ s ++ "' as u64: invalid digit found in string")
  | _ => failAt ts "literal int"
where
  /-- The value of a decimal digit. -/
  digitValue? (c : Char) : Option Nat := if c.isDigit then some (c.toNat - '0'.toNat) else none

/-- A number in parentheses, as text with them, or nothing. -/
def precision? : Parser String := do
  if ← symbol? "(" then
    let n ← wholeNumber
    symbol ")"
    return "(" ++ toString n ++ ")"
  return ""

end Parser

end QueryDrill.Sql
