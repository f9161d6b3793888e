import QueryDrill.Failure
import QueryDrill.Text.Case
/-!
The languages that requirements and messages are written in.
-/

namespace QueryDrill

open Text

/-- A language. -/
inductive Language where
  | english
  | italian
  deriving DecidableEq, Repr, Inhabited

namespace Language

/-- All languages. -/
def all : List Language := [english, italian]

/-- The short name of a language. -/
def name : Language → String
  | english => "en"
  | italian => "it"

/-- The English name of a language. -/
def englishName : Language → String
  | english => "English"
  | italian => "Italian"

/-- The text that is in a language. -/
def pick (l : Language) (inEnglish inItalian : String) : String :=
  match l with
  | english => inEnglish
  | italian => inItalian

/-- The language that a word names, blanks around it and ASCII case aside. -/
def ofWord (word : String) : Except Failure Language :=
  match lowerAscii (trim word) with
  | "en" | "english" => .ok english
  | "it" | "italian" => .ok italian
  | other => .error (.config ("Unknown language '" ++ other ++ "'. Expected 'en' or 'it'"))

end Language

/-- The dialect that a word names. -/
def dialectOfWord (word : String) : Except Failure Sql.Dialect :=
  match Sql.Dialect.ofWord? word with
  | some d => .ok d
  | none =>
    .error (.config ("Unknown SQL dialect '" ++ lowerAscii (trim word)
      ++ "'. Available: generic, postgres, mysql, sqlite"))

end QueryDrill
