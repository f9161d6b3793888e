import QueryDrill.CommandLine.Checking
import QueryDrill.CommandLine.Drafting
import QueryDrill.CommandLine.Listing
/-!
The program: from the words of a command line to an answer.
-/

namespace QueryDrill.CommandLine

/-- The files that a request may read, configuration files aside. -/
def Request.inputs : Request → List String
  | list r => r.registry.toList
  | check r =>
    r.schema :: (r.data.toList ++ r.query.toList ++ r.constraints.toList ++ r.registry.toList)
  | generate r => r.replies.toList ++ r.registry.toList

/-- The answer to a request. -/
def Request.answer (w : World) : Request → Answer
  | list r => .ofExcept (CommandLine.list w r)
  | check r => .ofExcept (CommandLine.check w r)
  | generate r => .ofExcept (generateAnswer w r)

/-- What is said of a command line that is refused. -/
def refusal (m : Misuse) (usage : String) : String :=
  m.message ++ "\n\n" ++ usage ++ "\n\nFor more information, try '--help'.\n"

/-- The exit status when a command line is no request. -/
def misuseExit : Nat := 2

/-- The answer to what was read of a command line. -/
def Reading.answer (w : World) : Reading → Answer
  | request r => r.answer w
  | told text => .told text
  | nothing text => ⟨misuseExit, "", text, none⟩
  | refused m usage => ⟨misuseExit, "", refusal m usage, none⟩

/-- The answer to a command line. -/
def answer (w : World) (words : List String) : Answer := (Reading.ofWords words).answer w

/-- The files that a command line may have read, configuration files aside. -/
def inputs (words : List String) : List String :=
  match Reading.ofWords words with
  | .request r => r.inputs
  | _ => []

end QueryDrill.CommandLine
