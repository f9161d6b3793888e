import QueryDrill.Text.Letter
import QueryDrill.Text.Blank
/-!
The SQL dialects and what they differ in.

A dialect decides which characters may stand in a name, which characters quote a name, whether a
backslash escapes a character of a string, and which optional clauses the grammar accepts.
-/

namespace QueryDrill.Sql

open Text

/-- A dialect of SQL. -/
inductive Dialect where
  | generic
  | postgres
  | mysql
  | sqlite
  deriving DecidableEq, Repr, Inhabited

namespace Dialect

/-- All dialects. -/
def all : List Dialect := [generic, postgres, mysql, sqlite]

/-- The name a dialect is known by. -/
def name : Dialect → String
  | generic => "generic"
  | postgres => "postgres"
  | mysql => "mysql"
  | sqlite => "sqlite"

/-- The dialect that a word names, blanks around it and ASCII case aside. -/
def ofWord? (word : String) : Option Dialect :=
  match lowerAscii (trim word) with
  | "generic" | "ansi" => some generic
  | "postgres" | "postgresql" => some postgres
  | "mysql" => some mysql
  | "sqlite" => some sqlite
  | _ => none

/-! ## 1. Characters -/

/-- Whether a character may open an unquoted name. -/
def opensName (d : Dialect) (c : Char) : Bool :=
  match d with
  | generic => isLetter c || c == '_' || c == '#' || c == '@'
  | postgres => isLetter c || c == '_'
  | mysql =>
    isLetter c || c == '_' || c == '$' || c == '@' || (0x80 ≤ c.toNat && c.toNat ≤ 0xFFFF)
  | sqlite =>
    (c.toNat < 0x80 && c.isAlpha) || c == '_' || c == '$' || (0x7F ≤ c.toNat && c.toNat ≤ 0xFFFF)

/-- Whether a character may stand inside an unquoted name. -/
def continuesName (d : Dialect) (c : Char) : Bool :=
  match d with
  | generic => isLetter c || c.isDigit || c == '@' || c == '$' || c == '#' || c == '_'
  | postgres => isLetter c || c.isDigit || c == '$' || c == '_'
  | mysql => opensName mysql c || c.isDigit
  | sqlite => opensName sqlite c || c.isDigit

/-- Whether a character opens a quoted name. -/
def quotesName (d : Dialect) (c : Char) : Bool :=
  match d with
  | generic | postgres => c == '"' || c == '`'
  | mysql => c == '`'
  | sqlite => c == '"' || c == '`' || c == '['

/-- Whether a backslash in a string stands for an escape. -/
def backslashEscapes (d : Dialect) : Bool := d == mysql

/-- Whether a name may start with digits. -/
def namesStartWithDigits (d : Dialect) : Bool := d == mysql

/-! ## 2. Optional clauses -/

/-- Whether an aggregate may carry a `FILTER` clause. -/
def hasAggregateFilter (d : Dialect) : Bool := d == postgres || d == sqlite

/-- Whether `GROUP BY` knows `GROUPING SETS`, `CUBE` and `ROLLUP`. -/
def hasGroupingSets (d : Dialect) : Bool := d == generic || d == postgres

/-- Whether the list after `IN` may be empty. -/
def hasEmptyInList (d : Dialect) : Bool := d == sqlite

end Dialect

end QueryDrill.Sql
