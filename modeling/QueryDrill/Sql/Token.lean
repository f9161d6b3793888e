import QueryDrill.Sql.Keyword
import QueryDrill.Text.Case
/-!
The tokens of SQL text.

Blanks and comments are no tokens: almost nothing in the grammar looks at them. What does, the data lines
of a copy, finds them among the lexemes. A symbol is known by its canonical spelling, so `!=` and `<>` are
one token.
-/

namespace QueryDrill.Sql

/-- A token. -/
inductive Token where
  /-- A word, with the quote it was written in, and its keyword (empty if it is none). -/
  | word (value : String) (quote : Option Char) (keyword : String)
  /-- A number as written, and whether it carries the suffix `L`. -/
  | number (digits : String) (long : Bool)
  | singleQuoted (text : String)
  | doubleQuoted (text : String)
  /-- A string between dollar signs, with the tag between them. -/
  | dollarQuoted (tag : Option String) (text : String)
  /-- A string with an introducing letter: `N`, `X`, `R`, or `B` with single quotes. -/
  | prefixed (letter : Char) (text : String)
  /-- `B"…"`. -/
  | doubleQuotedBytes (text : String)
  /-- `E'…'`, with its escapes resolved. -/
  | escaped (text : String)
  /-- A parameter such as `?` or `$1`. -/
  | placeholder (text : String)
  | symbol (text : String)
  /-- A character that belongs to no other token. -/
  | stray (c : Char)
  deriving DecidableEq, Repr, Inhabited

namespace Token

/-- The token of an unquoted word. -/
def ofWord (word : String) : Token :=
  let key := Text.upper word
  .word word none (if isKeywordText key then key else "")

/-- The token of a quoted word, which is never a keyword. -/
def ofQuoted (word : String) (quote : Char) : Token := .word word (some quote) ""

/-- The character that closes what a quote opens. -/
def closing (quote : Char) : Char := if quote = '[' then ']' else quote

/-- The keyword of a token; empty for a token that is none. -/
def keyword : Token → String
  | .word _ _ k => k
  | _ => ""

/-- The text of a token as error messages show it. -/
def text : Token → String
  | .word v none _ => v
  | .word v (some q) _ => q.toString ++ v ++ (closing q).toString
  | .number n long => if long then n ++ "L" else n
  | .singleQuoted s => "'" ++ s ++ "'"
  | .doubleQuoted s => "\"" ++ s ++ "\""
  | .dollarQuoted tag s =>
    let mark := "$" ++ tag.getD "" ++ "$"
    mark ++ s ++ mark
  | .prefixed c s => c.toString ++ "'" ++ s ++ "'"
  | .doubleQuotedBytes s => "B\"" ++ s ++ "\""
  | .escaped s => "E'" ++ s ++ "'"
  | .placeholder s => s
  | .symbol s => s
  | .stray c => c.toString

end Token

/-- What separates tokens. -/
inductive Blank where
  | space
  | tab
  | newline
  | comment (text : String)
  deriving DecidableEq, Repr, Inhabited

/-- The text of a blank. -/
def Blank.text : Blank → String
  | space => " "
  | tab => "\t"
  | newline => "\n"
  | comment s => s

/-- A piece of a text: a token, or what separates tokens. -/
inductive Lexeme where
  | token (t : Token)
  | blank (b : Blank)
  deriving DecidableEq, Repr, Inhabited

namespace Lexeme

/-- The token that a lexeme is. -/
def token? : Lexeme → Option Token
  | token t => some t
  | blank _ => none

/-- The text of a lexeme. -/
def text : Lexeme → String
  | token t => t.text
  | blank b => b.text

/-- What follows the first `n` tokens. -/
def afterTokens : Nat → List Lexeme → List Lexeme
  | 0, ls => ls
  | _ + 1, [] => []
  | n + 1, .token _ :: ls => afterTokens n ls
  | n + 1, .blank _ :: ls => afterTokens (n + 1) ls

end Lexeme

/-- The text of what stands at the front of a token list; nothing left reads `EOF`. -/
def foundText : List Token → String
  | [] => "EOF"
  | t :: _ => t.text

end QueryDrill.Sql
