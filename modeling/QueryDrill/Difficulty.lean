import QueryDrill.Failure
import QueryDrill.Text.Case
/-!
How hard an exercise is.
-/

namespace QueryDrill

open Text

/-- A difficulty. -/
inductive Difficulty where
  | easy
  | medium
  | hard
  deriving DecidableEq, Repr, Inhabited

namespace Difficulty

/-- All difficulties, from easy to hard. -/
def all : List Difficulty := [easy, medium, hard]

/-- The name of a difficulty. -/
def name : Difficulty → String
  | easy => "easy"
  | medium => "medium"
  | hard => "hard"

/-- The difficulty that a word names, blanks around it and ASCII case aside. -/
def ofWord (word : String) : Except Failure Difficulty :=
  match lowerAscii (trim word) with
  | "easy" => .ok easy
  | "medium" => .ok medium
  | "hard" => .ok hard
  | other =>
    .error (.config ("Unknown difficulty '" ++ other ++ "'. Expected one of: easy, medium, hard"))

end Difficulty

end QueryDrill
