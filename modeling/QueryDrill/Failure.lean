import QueryDrill.Text.Blank
import QueryDrill.Sql.Parse
/-!
What can go wrong, and how it is told.

A failure is a cause with its particulars; `Failure.message` words it.
-/

namespace QueryDrill

open Text

/-- A requirement that does not hold. -/
structure Violation where
  /-- The name of the requirement. -/
  constraint : String
  /-- The requirement as it was told to the author. -/
  description : String
  /-- What was found instead. -/
  observed : String
  deriving DecidableEq, Repr, Inhabited

/-- The requirement and what was found. -/
def Violation.message (v : Violation) : String :=
  v.description ++ " (observed: " ++ v.observed ++ ")"

/-- Why something could not be done. -/
inductive Failure where
  /-- A text does not read as it should. -/
  | parsing (fragment message : String)
  | violation (v : Violation)
  /-- Two requirements of different kinds cannot be joined. -/
  | merge (left right : String)
  /-- All drafts of an artifact were refused, the last one for these reasons. -/
  | generation (artifact : String) (attempts : Nat) (reasons : List String)
  /-- The author of drafts gave no answer. -/
  | oracle (message : String)
  | config (message : String)
  | registry (message : String)
  | io (message : String)
  | json (message : String)
  deriving DecidableEq, Repr, Inhabited

namespace Failure

/-- How many characters of a refused text a failure shows. -/
def fragmentLimit : Nat := 160

/-- The beginning of a text, as a failure shows it. -/
def fragmentOf (text : String) : String :=
  let cs := trimChars text.toList
  if fragmentLimit < cs.length then String.ofList (cs.take fragmentLimit) ++ "..." else String.ofList cs

/-- The failure to read a text. -/
def unreadable (text message : String) : Failure := parsing (fragmentOf text) message

/-- The text of a failure. -/
def message : Failure → String
  | parsing fragment m => "Parse error: " ++ m ++ " in `" ++ fragment ++ "`"
  | violation v => "Constraint violation: " ++ v.message
  | merge l r => "Cannot merge constraint '" ++ l ++ "' with constraint '" ++ r ++ "'"
  | generation artifact attempts reasons =>
    "Generation of " ++ artifact ++ " failed after " ++ toString attempts ++ " attempt(s): "
      ++ "; ".intercalate reasons
  | oracle m => "Oracle error: " ++ m
  | config m => "Configuration error: " ++ m
  | registry m => "Registry error: " ++ m
  | io m => "IO error: " ++ m
  | json m => "JSON error: " ++ m

end Failure

/-- What is seen of a result is seen of a value. -/
theorem exists_of_map_toOption {α β ε : Type} {x : Except ε α} {view : α → β} {b : β}
    (h : (x.map view).toOption = some b) : ∃ a, x = .ok a ∧ view a = b := by
  cases x with
  | error e => cases h
  | ok a => exact ⟨a, rfl, Option.some.inj h⟩

/-- The statements of a text, at least one. -/
def readStatements (d : Sql.Dialect) (text : String) : Except Failure (List Sql.Statement) :=
  match Sql.parseStatements d text with
  | .error fault => .error (.unreadable text (fault.message text))
  | .ok [] => .error (.unreadable text "no SQL statement found")
  | .ok statements => .ok statements

end QueryDrill
