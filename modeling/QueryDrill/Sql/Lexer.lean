import QueryDrill.Sql.Token
import QueryDrill.Sql.Dialect
/-!
From characters to tokens.

`scan` reads the lexeme at the front of the text: a token, or a blank or comment. It never looks at a
position. Where an error or a token stands is recorded as the number of characters
that were left there, and `lineColumn` turns that number into a line and a column when a message needs
them. So the tokens of a text depend on nothing that comes before it.

## 1. Errors and positions
-/

namespace QueryDrill.Sql

open Text

/-- Why a text has no tokens. -/
inductive LexFault where
  /-- A string that is never closed. -/
  | openString
  /-- A string with escapes that is never closed. -/
  | openEscapedString
  /-- A quoted name that lacks the closing quote. -/
  | openName (closing : Char)
  | openComment
  /-- A `$$` string that is never closed. -/
  | openDollarString
  /-- A `$tag$` string without a further dollar sign. -/
  | openTaggedString
  /-- A `$tag$` string with a dollar sign inside that its tag does not follow. -/
  | wrongTag (tag : String)
  /-- A `$tag$` string whose closing tag lacks its last dollar sign. -/
  | openTag
  deriving DecidableEq, Repr

namespace LexFault

/-- The message of a lexical error, without its position. -/
def message : LexFault → String
  | openString => "Unterminated string literal"
  | openEscapedString => "Unterminated encoded string literal"
  | openName c => "Expected close delimiter '" ++ c.toString ++ "' before EOF."
  | openComment => "Unexpected EOF while in a multi-line comment"
  | openDollarString => "Unterminated dollar-quoted string"
  | openTaggedString => "Unterminated dollar-quoted, expected $"
  | wrongTag tag => "Unterminated dollar-quoted string at or near \"" ++ tag ++ "\""
  | openTag => "Unterminated dollar-quoted string, expected $"

end LexFault

/-- The line and the column, both from 1, of the place where `left` characters of the text remain. -/
def lineColumn (text : List Char) (left : Nat) : Nat × Nat :=
  (text.take (text.length - left)).foldl
    (fun (line, column) c => if c = '\n' then (line + 1, 1) else (line, column + 1)) (1, 1)

/-- How messages show a position. -/
def positionText (text : List Char) (left : Nat) : String :=
  let (line, column) := lineColumn text left
  " at Line: " ++ toString line ++ ", Column " ++ toString column

/-! ## 2. Strings -/

/-- A scanned piece and the rest of the text. -/
abbrev Scanned (α : Type) := Except (LexFault × Nat) (α × List Char)

/-- The character a backslash and `c` stand for in a string whose dialect has escapes. -/
def backslashMeaning (c : Char) : Char :=
  match c with
  | '0' => '\x00'
  | 'b' => '\x08'
  | 'n' => '\n'
  | 'r' => '\r'
  | 't' => '\t'
  | 'Z' => '\x1a'
  | c => c

/-- The body of a string up to its closing quote; a quote written twice is one quote. -/
def stringBody (escapes : Bool) (quote : Char) : List Char → Option (List Char × List Char)
  | [] => none
  | c :: cs =>
    if c = quote then
      match cs with
      | c' :: r =>
        if c' = quote then (stringBody escapes quote r).map fun (s, r) => (quote :: s, r)
        else some ([], c' :: r)
      | [] => some ([], [])
    else if c = '\\' && escapes then
      match cs with
      | [] => none
      | n :: r => (stringBody escapes quote r).map fun (s, r) => (backslashMeaning n :: s, r)
    else (stringBody escapes quote cs).map fun (s, r) => (c :: s, r)

/-- A string whose opening quote stands at the front of `cs`. -/
def scanString (d : Dialect) (quote : Char) (cs : List Char) : Scanned String :=
  match stringBody d.backslashEscapes quote (cs.drop 1) with
  | some (s, r) => .ok (String.ofList s, r)
  | none => .error (.openString, cs.length)

/-- The character that a backslash and `c` stand for in an `E'…'` string. -/
def escapeMeaning (c : Char) : Char :=
  match c with
  | 'n' => '\n'
  | 'r' => '\r'
  | 't' => '\t'
  | c => c

/-- The body of an `E'…'` string up to its closing quote; a quote written twice is one quote. -/
def escapedBody : List Char → Option (List Char × List Char)
  | [] => none
  | '\'' :: '\'' :: r => (escapedBody r).map fun (s, r) => ('\'' :: s, r)
  | '\'' :: r => some ([], r)
  | ['\\'] => none
  | '\\' :: c :: r => (escapedBody r).map fun (s, r) => (escapeMeaning c :: s, r)
  | c :: r => (escapedBody r).map fun (s, r) => (c :: s, r)

/-- The body of a quoted name up to its closing quote; a closing quote written twice is one. -/
def nameBody (close : Char) : List Char → Option (List Char × List Char)
  | [] => none
  | c :: cs =>
    if c = close then
      match cs with
      | c' :: r =>
        if c' = close then (nameBody close r).map fun (s, r) => (close :: s, r)
        else some ([], c' :: r)
      | [] => some ([], [])
    else (nameBody close cs).map fun (s, r) => (c :: s, r)

/-! ## 3. Strings between dollar signs -/

/-- The body of a `$$` string, `previous` telling whether the last character was a dollar sign. -/
def dollarBody (previous : Bool) : List Char → Option (List Char × List Char)
  | [] => none
  | c :: cs =>
    if previous then
      if c = '$' then some ([], cs)
      else (dollarBody false cs).map fun (s, r) => ('$' :: c :: s, r)
    else if c = '$' then dollarBody true cs
    else (dollarBody false cs).map fun (s, r) => (c :: s, r)

/-- What follows the tag and the dollar sign that close a string, or the fault and how many characters
were left. The first character that differs has been read as well. -/
def afterTag (whole : List Char) : List Char → List Char → Except (LexFault × Nat) (List Char)
  | [], '$' :: r => .ok r
  | [], r => .error (.openTag, r.length)
  | _ :: _, [] => .error (.wrongTag (String.ofList whole), 0)
  | t :: ts, c :: r =>
    if c = t then afterTag whole ts r else .error (.wrongTag (String.ofList whole), r.length)

/-- The body of a `$tag$` string. The next dollar sign has to open the closing tag. -/
def taggedBody (tag cs : List Char) : Scanned (List Char) :=
  match cs.dropWhile (· ≠ '$') with
  | [] => .error (.openTaggedString, 0)
  | _ :: r => (afterTag tag tag r).map fun r => (cs.takeWhile (· ≠ '$'), r)

/-- A parameter or a string that starts with a dollar sign, which stands at the front of `cs`. -/
def scanDollar (cs : List Char) : Scanned Token :=
  match cs.drop 1 with
  | '$' :: r =>
    match dollarBody false r with
    | some (s, r) => .ok (.dollarQuoted none (String.ofList s), r)
    | none => .error (.openDollarString, 0)
  | r =>
    let inTag := fun c => isLetter c || isNumber c || c == '_'
    let tag := r.takeWhile inTag
    match r.dropWhile inTag with
    | '$' :: r' =>
      match taggedBody tag r' with
      | .ok (s, r) =>
        .ok (.dollarQuoted (if tag.isEmpty then none else some (String.ofList tag)) (String.ofList s), r)
      | .error e => .error e
    | r' => .ok (.placeholder (String.ofList ('$' :: tag)), r')

/-! ## 4. Comments -/

/-- What follows a comment whose opening `/*` has been read. Comments nest. -/
def afterComment (depth : Nat) (previous : Char) : List Char → Option (List Char)
  | [] => none
  | c :: cs =>
    if previous = '/' && c = '*' then afterComment (depth + 1) c cs
    else if previous = '*' && c = '/' then
      if depth ≤ 1 then some cs else afterComment (depth - 1) c cs
    else afterComment depth c cs

/-- What follows a comment that runs to the end of its line. -/
def afterLine (cs : List Char) : List Char := (cs.dropWhile (· ≠ '\n')).drop 1

/-- The comment at the front of `cs`, which goes on to `rest`. -/
def commentOf (cs rest : List Char) : Blank :=
  .comment (String.ofList (cs.take (cs.length - rest.length)))

/-! ## 5. Words and numbers -/

/-- A word that starts with the characters `start`. -/
def scanWord (d : Dialect) (start : List Char) (cs : List Char) : Token × List Char :=
  (.ofWord (String.ofList (start ++ cs.takeWhile d.continuesName)), cs.dropWhile d.continuesName)

/-- The exponent of a number at the front of `cs`, if it is complete. -/
def exponent? (cs : List Char) : Option (List Char × List Char) :=
  match cs with
  | e :: r =>
    if e = 'e' || e = 'E' then
      let (sign, r) := match r with
        | '+' :: r => (['+'], r)
        | '-' :: r => (['-'], r)
        | r => ([], r)
      match r with
      | c :: _ =>
        if c.isDigit then
          some (e :: sign ++ r.takeWhile Char.isDigit, r.dropWhile Char.isDigit)
        else none
      | [] => none
    else none
  | [] => none

/-- Whether `cs` starts with the letter of an exponent. -/
def startsExponent (cs : List Char) : Bool :=
  match cs with
  | c :: _ => c == 'e' || c == 'E'
  | [] => false

/-- Whether a character is a hexadecimal digit. -/
def isHexDigit (c : Char) : Bool := c.isDigit || ('a' ≤ c && c ≤ 'f') || ('A' ≤ c && c ≤ 'F')

/-- A number, a point, or a word that starts with digits. -/
def scanNumber (d : Dialect) (cs : List Char) : Token × List Char :=
  let whole := cs.takeWhile Char.isDigit
  let r := cs.dropWhile Char.isDigit
  match whole, r with
  | ['0'], 'x' :: r =>
    (.prefixed 'X' (String.ofList (r.takeWhile isHexDigit)), r.dropWhile isHexDigit)
  | _, _ =>
    let (point, r) := match r with
      | '.' :: r => (['.'], r)
      | r => ([], r)
    let digits := whole ++ point ++ r.takeWhile Char.isDigit
    let r := r.dropWhile Char.isDigit
    if digits = ['.'] then (.symbol ".", r)
    else
      let (tail, r') := (exponent? r).getD ([], r)
      let word := if d.namesStartWithDigits && !startsExponent r then r.takeWhile d.continuesName else []
      if word.isEmpty then
        match r' with
        | 'L' :: r' => (.number (String.ofList (digits ++ tail)) true, r')
        | r' => (.number (String.ofList (digits ++ tail)) false, r')
      else (.ofWord (String.ofList (digits ++ word)), r.dropWhile d.continuesName)

/-! ## 6. One lexeme -/

/-- The symbols that stand for themselves whatever follows, longest first. -/
def symbolTable : List (List Char × String) :=
  [("!~~*", "!~~*"),
   ("<=>", "<=>"), ("->>", "->>"), ("#>>", "#>>"), ("!~*", "!~*"), ("!~~", "!~~"), ("~~*", "~~*"),
   ("||/", "||/"),
   ("->", "->"), ("|/", "|/"), ("||", "||"), ("=>", "=>"), ("==", "=="), ("!=", "<>"), ("!!", "!!"),
   ("!~", "!~"), ("<=", "<="), ("<>", "<>"), ("<<", "<<"), ("<@", "<@"), (">=", ">="), (">>", ">>"),
   ("::", "::"), (":=", ":="), ("&&", "&&"), ("~*", "~*"), ("~~", "~~"), ("#-", "#-"), ("#>", "#>"),
   ("@>", "@>"), ("@?", "@?"), ("^@", "^@"),
   ("(", "("), (")", ")"), (",", ","), ("-", "-"), ("/", "/"), ("+", "+"), ("*", "*"), ("%", "%"),
   ("|", "|"), ("=", "="), ("!", "!"), ("<", "<"), (">", ">"), (":", ":"), (";", ";"), ("\\", "\\"),
   ("[", "["), ("]", "]"), ("&", "&"), ("^", "^"), ("\x7b", "\x7b"), ("\x7d", "\x7d"), ("~", "~")
  ].map fun (spelling, name) => (spelling.toList, name)

/-- The longest symbol at the front of a text. -/
def scanSymbol? (cs : List Char) : Option (Token × List Char) :=
  symbolTable.findSome? fun (spelling, name) =>
    (dropPrefix? spelling cs).map fun r => (.symbol name, r)

/-- A word whose mark (`#`, `@` or `@@`) has been read, or the mark alone: a mark belongs to the name
after it where the dialect lets a name open with it and no space follows. -/
def scanMarked (d : Dialect) (mark : List Char) (cs : List Char) : Token × List Char :=
  match cs with
  | c :: r =>
    if c ≠ ' ' && mark.all d.opensName then scanWord d (mark ++ [c]) r
    else (.symbol (String.ofList mark), cs)
  | [] => (.symbol (String.ofList mark), cs)

/-- A string with an introducing letter, or a word that starts with that letter. -/
def scanPrefixed (d : Dialect) (c : Char) (r : List Char) : Scanned Token :=
  let isBytes := (c == 'b' || c == 'B' || c == 'r' || c == 'R') && d == .generic
  match r with
  | '\'' :: r' =>
    if c = 'e' || c = 'E' then
      match escapedBody r' with
      | some (s, r) => .ok (.escaped (String.ofList s), r)
      | none => .error (.openEscapedString, r.length + 1)
    else if c = 'n' || c = 'N' || c = 'x' || c = 'X' || isBytes then
      (scanString d '\'' r).map fun (s, r) => (.prefixed c.toUpper s, r)
    else .ok (scanWord d [c] r)
  | '"' :: _ =>
    if isBytes then
      (scanString d '"' r).map fun (s, r) =>
        (if c.toUpper = 'B' then .doubleQuotedBytes s else .prefixed 'R' s, r)
    else .ok (scanWord d [c] r)
  | _ => .ok (scanWord d [c] r)

/-- The token that starts with `c` and goes on in `r`; a blank if no token starts so. -/
def scanToken (d : Dialect) (c : Char) (r : List Char) : Scanned Lexeme :=
  let cs := c :: r
  let token : Token × List Char → Lexeme × List Char := fun (t, r) => (.token t, r)
  if "nNeExX".toList.contains c || (d == .generic && "bBrR".toList.contains c) then
    (scanPrefixed d c r).map token
  else if c = '\'' then (scanString d '\'' cs).map fun (s, r) => token (.singleQuoted s, r)
  else if c = '"' && !d.quotesName c && !d.opensName c then
    (scanString d '"' cs).map fun (s, r) => token (.doubleQuoted s, r)
  else if d.quotesName c then
    match nameBody (Token.closing c) r with
    | some (s, r) => .ok (token (.ofQuoted (String.ofList s) c, r))
    | none => .error (.openName (Token.closing c), cs.length)
  else if c.isDigit || c = '.' then .ok (token (scanNumber d cs))
  else
    match cs with
    | '/' :: '/' :: r =>
      .ok (token (if d = .generic then (.symbol "//", r) else (.symbol "/", '/' :: r)))
    | '?' :: r =>
      .ok (token (.placeholder (String.ofList ('?' :: r.takeWhile isNumber)), r.dropWhile isNumber))
    | _ =>
      match scanSymbol? cs with
      | some found => .ok (token found)
      | none =>
        match cs with
        | '@' :: '@' :: r => .ok (token (scanMarked d ['@', '@'] r))
        | '@' :: r => .ok (token (scanMarked d ['@'] r))
        | '#' :: r => .ok (token (scanMarked d ['#'] r))
        | _ =>
          if d.opensName c then .ok (token (scanWord d [c] r))
          else if c = '$' then (scanDollar cs).map token
          else if isBlank c then .ok (.blank .space, r)
          else .ok (token (.stray c, r))

/-- The lexeme that starts with `c` and goes on in `r`. -/
def scan (d : Dialect) (c : Char) (r : List Char) : Scanned Lexeme :=
  match c :: r with
  | ' ' :: r => .ok (.blank .space, r)
  | '\t' :: r => .ok (.blank .tab, r)
  | '\n' :: r | '\r' :: '\n' :: r | '\r' :: r => .ok (.blank .newline, r)
  | '-' :: '-' :: r' => .ok (.blank (commentOf (c :: r) (afterLine r')), afterLine r')
  | '/' :: '*' :: r' =>
    match afterComment 1 ' ' r' with
    | some rest => .ok (.blank (commentOf (c :: r) rest), rest)
    | none => .error (.openComment, 0)
  | _ => scanToken d c r

/-! ## 7. A whole text -/

/-- The lexemes of a text, each with the number of characters left where it starts. -/
def lex (d : Dialect) (cs : List Char) : Except (LexFault × Nat) (List (Lexeme × Nat)) :=
  match cs with
  | [] => .ok []
  | c :: r =>
    match scan d c r with
    | .error e => .error e
    | .ok (lexeme, rest) =>
      if rest.length < r.length + 1 then
        match lex d rest with
        | .error e => .error e
        | .ok ls => .ok ((lexeme, cs.length) :: ls)
      else .ok []
termination_by cs.length

/-- The tokens among lexemes, each with its place. -/
def tokensOf (lexemes : List (Lexeme × Nat)) : List (Token × Nat) :=
  lexemes.filterMap fun (l, left) => l.token?.map (·, left)

end QueryDrill.Sql
