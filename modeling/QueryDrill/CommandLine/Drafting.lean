import QueryDrill.CommandLine.Answer
import QueryDrill.CommandLine.Request
import QueryDrill.Config.Provider
import QueryDrill.Json.Print
/-!
The generation of an assignment.

What the request leaves open is taken from the configuration. A provider that is a service is checked for
its key but never asked: drafts come from scripts only.
-/

namespace QueryDrill.CommandLine

/-! ## 1. Preparation -/

/-- The configuration of the files and the environment. -/
def World.config (w : World) : Except Failure Config := do
  let files ← w.configFiles.mapM fun path => return (path, ← w.file path)
  Config.load files w.env

/-- The settings of a configuration after what a request says. -/
def GenerateRequest.settings (r : GenerateRequest) (c : Config) : Settings :=
  let s := c.generation.settings
  ⟨r.maxAttempts.getD s.maxAttempts, r.dialect.getD s.dialect, r.language.getD s.language,
    s.refineRequests && !r.keepsRequests⟩

/-- Who is asked for drafts, and the script that answers. -/
structure Author where
  provider : Provider
  script : Script
  deriving DecidableEq, Repr, Inhabited

/-- Who a request has drafts come from. A file with replies goes before all else. -/
def author (w : World) (r : GenerateRequest) (c : Config) : Except Complaint Author :=
  match r.replies with
  | some path =>
    (do return ⟨.mock, ← Script.ofText (← w.file path)⟩ : Except Failure Author).mapError
      (Complaint.during ("loading replies from " ++ path))
  | none => orComplain do
    return ⟨← Provider.create (r.provider.getD c.generation.provider) c, .ofReplies []⟩

/-- All that a generation needs. -/
structure Preparation where
  settings : Settings
  author : Author
  registry : Registry

/-- What a generation needs, as a request has it. -/
def prepare (w : World) (r : GenerateRequest) : Except Complaint Preparation := do
  let c ← orComplain w.config
  if r.maxAttempts = some 0 then .error ⟨"--max-attempts must be at least 1", []⟩
  else
    let a ← author w r c
    if !a.provider.isReady then
      .error ⟨"Provider '" ++ a.provider.name ++ "' has no API key configured", []⟩
    else return ⟨r.settings c, a, ← w.registry r.registry⟩

/-! ## 2. Texts -/

/-- What is said before a generation. -/
def announcement (r : GenerateRequest) (a : Author) : String :=
  "Generating " ++ toString r.picks.length ++ " exercise(s) about '" ++ r.domain ++ "' with "
    ++ a.provider.name ++ "...\n"

/-- The line on an exercise that was generated. -/
def exerciseLine (e : Exercise) : String :=
  "  [" ++ e.misconceptionId ++ "] " ++ e.title ++ " (" ++ e.difficulty.name ++ ")\n"

/-- The path of a file in a directory. -/
def pathIn (directory file : String) : String :=
  if directory.isEmpty || directory.endsWith "/" then directory ++ file else directory ++ "/" ++ file

/-- The files of an assignment in a directory, and what is told of them. -/
def assignmentFiles (r : GenerateRequest) (a : Assignment) (directory : String) : Save :=
  let script := pathIn directory "dataset.sql"
  let record := pathIn directory "assignment.json"
  { directory := directory
    files := [(script, a.dataset.toSql r.schemaName), (record, a.toJson.pretty)]
    out := "Dataset written to " ++ script ++ "\nAssignment written to " ++ record ++ "\n"
    err := String.join (a.exercises.map exerciseLine) }

/-! ## 3. Answers -/

/-- What a service says instead of drafts. -/
def unansweredRequest : Failure := .oracle "OpenAI API request failed after retries"

/-- Generates an assignment for a request. -/
def assignmentFor (r : GenerateRequest) (p : Preparation) : Except Failure Assignment :=
  let run := (Assignment.generate p.registry p.settings r.domain r.details r.picks).run.run p.author.script
  match p.author.provider, run with
  | .mock, (result, _) => result
  | .openai _, (result, script) => if script.calls.isEmpty then result else .error unansweredRequest

/-- The answer to a request for an assignment. -/
def generateAnswer (w : World) (r : GenerateRequest) : Except Complaint Answer := do
  let p ← prepare w r
  let before := announcement r p.author
  match assignmentFor r p, r.output with
  | .error f, _ => return .givenUp before (.ofFailure f)
  | .ok a, none =>
    return ⟨0, a.toJson.pretty ++ "\n", before ++ String.join (a.exercises.map exerciseLine), none⟩
  | .ok a, some directory => return ⟨0, "", before, some (assignmentFiles r a directory)⟩

end QueryDrill.CommandLine
