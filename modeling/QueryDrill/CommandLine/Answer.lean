import QueryDrill.Misconception.Builtin
/-!
What a command answers, and what it can see of the world.

A command reads files and variables through a `World` and comes to an `Answer`. It writes nothing itself:
an answer names the files to be written, and says what is told once they are.
-/

namespace QueryDrill.CommandLine

/-! ## 1. Complaints -/

/-- Why a command gives up: what it was at, and the causes, each one followed by its own cause. -/
structure Complaint where
  headline : String
  causes : List String
  deriving DecidableEq, Repr, Inhabited

namespace Complaint

/-- A text with its lines after the first one moved to the right. -/
def indentRest (blanks : Nat) (text : String) : String :=
  String.ofList (text.toList.flatMap fun c =>
    if c = '\n' then '\n' :: List.replicate blanks ' ' else [c])

/-- A text filled up with blanks at the front to a width. -/
def padStart (width : Nat) (text : String) : String :=
  String.ofList (List.replicate (width - text.length) ' ') ++ text

/-- The lines on causes, numbered from a number on. -/
def numbered (number : Nat) : List String → List String
  | [] => []
  | c :: cs =>
    ("\n" ++ padStart 5 (toString number) ++ ": " ++ indentRest 7 c) :: numbered (number + 1) cs

/-- The lines on causes. A single one has no number. -/
def causeLines : List String → List String
  | [] => []
  | [c] => ["\n\nCaused by:", "\n    " ++ indentRest 4 c]
  | cs => "\n\nCaused by:" :: numbered 0 cs

/-- A complaint as it is printed. -/
def text (c : Complaint) : String :=
  "Error: " ++ c.headline ++ String.join (causeLines c.causes) ++ "\n"

/-- What is underneath a failure. -/
def underneath : Failure → List String
  | .violation v => [v.message]
  | .io m => [m]
  | _ => []

/-- The complaint about a failure. -/
def ofFailure (f : Failure) : Complaint := ⟨f.message, underneath f⟩

/-- The complaint about a failure while something was done. -/
def during (activity : String) (f : Failure) : Complaint := ⟨activity, f.message :: underneath f⟩

end Complaint

/-- A value unless there was a failure. -/
def orComplain {α : Type} (r : Except Failure α) : Except Complaint α := r.mapError Complaint.ofFailure

/-! ## 2. Answers -/

/-- Files to be written into a directory, and what is told once they are. -/
structure Save where
  directory : String
  /-- The path and the content of each file. -/
  files : List (String × String)
  out : String
  err : String
  deriving DecidableEq, Repr, Inhabited

/-- What a command comes to. -/
structure Answer where
  exit : Nat
  out : String
  err : String
  save : Option Save
  deriving DecidableEq, Repr, Inhabited

namespace Answer

/-- An answer that prints a text. -/
def told (text : String) : Answer := ⟨0, text, "", none⟩

/-- The answer to a complaint, after something else was said. -/
def givenUp (before : String) (c : Complaint) : Answer := ⟨1, "", before ++ c.text, none⟩

/-- The answer of a computation that may end in a complaint. -/
def ofExcept : Except Complaint Answer → Answer
  | .ok a => a
  | .error c => givenUp "" c

/-- The answer after its files have been written, or could not be written for some reason. -/
def afterSaving (a : Answer) (written : Except String Unit) : Answer :=
  match a.save, written with
  | none, _ => a
  | some s, .ok () => { a with out := a.out ++ s.out, err := a.err ++ s.err, save := none }
  | some _, .error reason =>
    { a with exit := 1, err := a.err ++ Complaint.text ⟨reason, []⟩, save := none }

end Answer

/-! ## 3. The world -/

/-- What a command can see. -/
structure World where
  /-- The content of a file, or why it cannot be read. -/
  read : String → Except String String
  /-- The value of a variable of the environment. -/
  env : String → Option String
  /-- The configuration files that there are, the most general first. -/
  configFiles : List String

namespace World

/-- The content of a file. -/
def file (w : World) (path : String) : Except Failure String := (w.read path).mapError Failure.io

/-- The content of a file that a command was given. -/
def content (w : World) (path : String) : Except Complaint String :=
  (w.read path).mapError fun reason => ⟨"reading " ++ path, [reason]⟩

/-- The built-in misconceptions, with those of a file if one is given. -/
def registry (w : World) : Option String → Except Complaint Registry
  | none => .ok Registry.builtin
  | some path =>
    (do Registry.builtin.load (← w.file path)).mapError
      (Complaint.during ("loading misconceptions from " ++ path))

end World

end QueryDrill.CommandLine
