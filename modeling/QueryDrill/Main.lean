import QueryDrill.CommandLine.Program
/-!
The command line. Files that the words name are read first, the answer is computed from them, and what it
has to write is written last.
-/

open QueryDrill.CommandLine

/-- What the system says of a file that is not there. -/
def missingText : String := "No such file or directory (os error 2)"

/-- What the system says when something cannot be read or written. -/
def systemText : IO.Error → String
  | .noFileOrDirectory .. => missingText
  | .permissionDenied _ code _ => s!"Permission denied (os error {code})"
  | .alreadyExists _ code _ => s!"File exists (os error {code})"
  | .inappropriateType _ code _ =>
    if code = 20 then s!"Not a directory (os error {code})" else s!"Is a directory (os error {code})"
  | e => e.toString

/-- Runs an action, with what the system says if it fails. -/
def attempt {α : Type} (action : IO α) : IO (Except String α) :=
  try return .ok (← action) catch e => return .error (systemText e)

/-- The content of a file, or why it cannot be read. -/
def readText (path : String) : IO (Except String String) := do
  match ← attempt (IO.FS.readBinFile path) with
  | .error reason => return .error reason
  | .ok bytes =>
    match String.fromUTF8? bytes with
    | some text => return .ok text
    | none => return .error "stream did not contain valid UTF-8"

/-- The configuration files that there are, the most general first. -/
def configPaths : IO (List String) := do
  let home := ((← IO.getEnv "HOME").map fun h => pathIn h ".sqlgen/config.toml").toList
  (home ++ [".sqlgen/config.toml"]).filterM fun path => do
    match ← readText path with
    | .error reason => return reason != missingText
    | .ok _ => return true

/-- The variables that a configuration looks at. -/
def environment : IO (List (String × Option String)) :=
  (QueryDrill.Config.modelVariable
    :: QueryDrill.Config.availableProviders.map QueryDrill.Config.keyVariable).mapM
    fun name => return (name, ← IO.getEnv name)

/-- Writes the files of an answer. -/
def write (s : Save) : IO (Except String Unit) := attempt do
  if !s.directory.isEmpty then IO.FS.createDirAll s.directory
  s.files.forM fun (path, content) => IO.FS.writeFile path content

/-- Answers a command line. -/
def main (words : List String) : IO UInt32 := do
  let config ← configPaths
  let files ← (config ++ inputs words).mapM fun path => return (path, ← readText path)
  let env ← environment
  let world : World := {
    read := fun path => (files.lookup path).getD (.error missingText)
    env := fun name => (env.lookup name).join
    configFiles := config }
  let answer := answer world words
  IO.print answer.out
  IO.eprint answer.err
  match answer.save with
  | none => return UInt32.ofNat answer.exit
  | some s => do
    let told := Answer.afterSaving { answer with out := "", err := "" } (← write s)
    IO.print told.out
    IO.eprint told.err
    return UInt32.ofNat told.exit
