import QueryDrill.CommandLine.Matching
import QueryDrill.Generation.Assignment
/-!
What a command line can ask for.

Each command has a record of what it is asked, which its parameters fill in. `Request.ofWords` reads a
command line; whatever is wrong with it is found before anything is done.
-/

namespace QueryDrill.CommandLine

open Sql Text

/-! ## 1. Values -/

/-- Reads a value; what is wrong with it is told as for any other failure. -/
def reading {α : Type} (read : String → Except Failure α) (text : String) : Except String α :=
  (read text).mapError Failure.message

/-- The greatest count. -/
def greatestCount : Nat := UInt64.size - 1

/-- A count after some more digits. What is found first, from the left, is told. -/
def countAfter (count : Nat) : List Char → Except String Nat
  | [] => .ok count
  | c :: cs =>
    if !c.isDigit then .error "invalid digit found in string"
    else
      let next := 10 * count + (c.toNat - '0'.toNat)
      if greatestCount < next then .error "number too large to fit in target type"
      else countAfter next cs

/-- Reads a count. It may have a plus sign. -/
def readCount (text : String) : Except String Nat :=
  match text.toList with
  | [] => .error "cannot parse integer from empty string"
  | '+' :: c :: cs => countAfter 0 (c :: cs)
  | cs => countAfter 0 cs

/-- What stands before the first colon, and what stands after it. -/
def splitColon : List Char → List Char × Option (List Char)
  | [] => ([], none)
  | c :: cs =>
    if c = ':' then ([], some cs)
    else
      let (before, after) := splitColon cs
      (c :: before, after)

/-- Reads a pick: the name of a misconception, and after a colon a difficulty, which is medium if it is
not given. -/
def readPick (text : String) : Except String Pick := do
  let (id, level) := splitColon text.toList
  let difficulty ← match level with
    | some level => reading Difficulty.ofWord (String.ofList level)
    | none => .ok .medium
  if (trimChars id).isEmpty then .error ("missing misconception id in '" ++ text ++ "'")
  else return (String.ofList (trimChars id), difficulty)

/-- Whether a word for a format stands for JSON; any other word stands for plain text. -/
def isJsonFormat (word : String) : Bool := word == "json"

/-! ## 2. Parameters of several commands -/

/-- The parameter for a file with further misconceptions. -/
def registryParameter {σ : Type} (set : String → σ → σ) : Parameter σ :=
  .text "registry" "REGISTRY" "Additional misconception definitions (TOML)" set

/-- The parameter for a language. -/
def languageParameter {σ : Type} (use : String) (set : Language → σ → σ) : Parameter σ :=
  .value "language" "LANGUAGE" ("Language of the " ++ use ++ " (en, it)") (reading Language.ofWord) set

/-- The parameter for a dialect. -/
def dialectParameter {σ : Type} (set : Dialect → σ → σ) : Parameter σ :=
  .value "dialect" "DIALECT" "SQL dialect (generic, postgres, mysql, sqlite)" (reading dialectOfWord) set

/-- The parameter for picks. -/
def pickParameter {σ : Type} (set : Pick → σ → σ) : Parameter σ :=
  (Parameter.value "pick" "PICKS" "Misconception pick as `id` or `id:difficulty` (repeatable)" readPick
    set).many

/-- The parameter for the format of what is printed. -/
def formatParameter {σ : Type} (set : Bool → σ → σ) : Parameter σ :=
  (Parameter.text "format" "FORMAT" "Output format (text or json)" fun v => set (isJsonFormat v)).withFallback
    "text"

/-! ## 3. Commands -/

/-- What is asked of the list of misconceptions. -/
structure ListRequest where
  /-- The misconception to show; all of them are listed if there is none. -/
  id : Option String
  difficulty : Option Difficulty
  registry : Option String
  language : Language
  asJson : Bool
  deriving DecidableEq, Repr

/-- The list of the built-in misconceptions. -/
def ListRequest.start : ListRequest := ⟨none, none, none, .english, false⟩

instance : Inhabited ListRequest := ⟨.start⟩

/-- The command that lists misconceptions. -/
def listCommand : Command ListRequest where
  name := "misconceptions"
  about := "List the known misconceptions, or show one profile"
  operand := some ⟨"ID", "Show the constraints of one misconception", fun v r => { r with id := some v }⟩
  parameters := [
    .value "difficulty" "DIFFICULTY" "Difficulty to show (easy, medium, hard); all levels when omitted"
      (reading Difficulty.ofWord) fun v r => { r with difficulty := some v },
    registryParameter fun v r => { r with registry := some v },
    (languageParameter "constraint descriptions" fun v r => { r with language := v }).withFallback "en",
    formatParameter fun v r => { r with asJson := v }]

/-- What is asked of a check of SQL files. -/
structure CheckRequest where
  schema : String
  data : Option String
  query : Option String
  picks : List Pick
  constraints : Option String
  registry : Option String
  dialect : Dialect
  language : Language
  asJson : Bool
  deriving DecidableEq, Repr

/-- A check of nothing. -/
def CheckRequest.start : CheckRequest := ⟨"", none, none, [], none, none, .postgres, .english, false⟩

instance : Inhabited CheckRequest := ⟨.start⟩

/-- The command that checks SQL files. -/
def checkCommand : Command CheckRequest where
  name := "check"
  about := "Validate SQL files against misconception profiles or a constraint file"
  operand := none
  parameters := [
    (Parameter.text "schema" "SCHEMA" "SQL file with the CREATE TABLE statements"
      fun v r => { r with schema := v }).required,
    .text "data" "DATA" "SQL file with the INSERT statements" fun v r => { r with data := some v },
    .text "query" "QUERY" "SQL file with the solution query" fun v r => { r with query := some v },
    pickParameter fun v r => { r with picks := r.picks ++ [v] },
    .text "constraints" "CONSTRAINTS"
      "TOML file with `schema = [...]` and `query = [...]` constraint lists"
      fun v r => { r with constraints := some v },
    registryParameter fun v r => { r with registry := some v },
    (dialectParameter fun v r => { r with dialect := v }).withFallback "postgres",
    (languageParameter "violation messages" fun v r => { r with language := v }).withFallback "en",
    formatParameter fun v r => { r with asJson := v }]

/-- What is asked of the generation of an assignment. What is not said is taken from the configuration. -/
structure GenerateRequest where
  domain : String
  picks : List Pick
  details : List String
  provider : Option String
  /-- A file with the replies of a scripted author. -/
  replies : Option String
  registry : Option String
  maxAttempts : Option Nat
  dialect : Option Dialect
  language : Option Language
  /-- Whether requests stay as they were accepted. -/
  keepsRequests : Bool
  /-- The directory for the files of the assignment, which is printed if there is none. -/
  output : Option String
  schemaName : String
  deriving DecidableEq, Repr

/-- A generation without exercises. -/
def GenerateRequest.start : GenerateRequest :=
  ⟨"", [], [], none, none, none, none, none, none, false, none, "exercise"⟩

instance : Inhabited GenerateRequest := ⟨.start⟩

/-- The command that generates an assignment. -/
def generateCommand : Command GenerateRequest where
  name := "generate"
  about := "Generate a dataset and one exercise per misconception pick"
  operand := none
  parameters := [
    ((Parameter.text "domain" "DOMAIN" "Domain of the dataset (e.g. \"a public library\")"
      fun v r => { r with domain := v }).withLetter 'd').required,
    (pickParameter fun v r => { r with picks := r.picks ++ [v] }).required,
    (Parameter.text "detail" "DETAILS" "Extra characteristic of the dataset (repeatable)"
      fun v r => { r with details := r.details ++ [v] }).many,
    .text "provider" "PROVIDER" "Provider to use (openai, mock)" fun v r => { r with provider := some v },
    .text "mock-replies" "MOCK_REPLIES" "JSON array of scripted replies for the mock provider"
      fun v r => { r with replies := some v },
    registryParameter fun v r => { r with registry := some v },
    .value "max-attempts" "MAX_ATTEMPTS" "Oracle calls allowed per artifact" readCount
      fun v r => { r with maxAttempts := some v },
    dialectParameter fun v r => { r with dialect := some v },
    languageParameter "exercises" fun v r => { r with language := some v },
    .switch "no-refine" "Keep the requests exactly as first accepted"
      fun r => { r with keepsRequests := true },
    (Parameter.text "output" "OUTPUT" "Output directory for `dataset.sql` and `assignment.json`"
      fun v r => { r with output := some v }).withLetter 'o',
    (Parameter.text "schema-name" "SCHEMA_NAME" "Schema name used in `dataset.sql`"
      fun v r => { r with schemaName := v }).withFallback GenerateRequest.start.schemaName]

/-! ## 4. Requests -/

/-- What the program can be asked for. -/
inductive Request where
  | list (r : ListRequest)
  | check (r : CheckRequest)
  | generate (r : GenerateRequest)
  deriving DecidableEq, Repr

/-- What a command line comes to before anything is done. -/
inductive Reading where
  | request (r : Request)
  /-- A text that was asked for. -/
  | told (text : String)
  /-- A text that is shown since nothing was asked for. -/
  | nothing (text : String)
  /-- The command line is refused, and how the program is called instead. -/
  | refused (m : Misuse) (usage : String)
  deriving DecidableEq, Repr

/-- A row on each command. -/
def commandRows : List (String × String) := [listCommand.row, checkCommand.row, generateCommand.row]

/-- The help on the program. -/
def help : String := programHelp commandRows

/-- The names of the commands, with that of the command that gives help. -/
def commandNames : List String := commandRows.map Prod.fst ++ [helpName]

namespace Reading

/-- A reading of the words after the name of a command. -/
def ofCommand {σ : Type} (c : Command σ) (start : σ) (make : σ → Request) (words : List String) :
    Reading :=
  match c.read start words with
  | .ok r => request (make r)
  | .error .help => told c.help
  | .error (.misuse m) => refused m c.usage

/-- The command that a word names, as a reading of the words after it. -/
def ofName? (name : String) : Option (List String → Reading) :=
  if name = listCommand.name then some (ofCommand listCommand .start .list)
  else if name = checkCommand.name then some (ofCommand checkCommand .start .check)
  else if name = generateCommand.name then some (ofCommand generateCommand .start .generate)
  else none

/-- The help on the command that a word names. -/
def helpOn? (name : String) : Option String :=
  if name = listCommand.name then some listCommand.help
  else if name = checkCommand.name then some checkCommand.help
  else if name = generateCommand.name then some generateCommand.help
  else if name = helpName then some helpOnHelp
  else none

/-- A refusal of a word that should name a command. -/
def unknownCommand (word : String) : Reading := refused (.unknownCommand word) programUsage

/-- A refusal of a word that nothing answers to. -/
def unexpected (word : String) : Reading := refused (.unexpected word) programUsage

/-- A reading of the words after the command that gives help. -/
def ofHelp : List String → Reading
  | [] => told help
  | [name] => ((helpOn? name).map told).getD (unknownCommand name)
  | name :: next :: _ => if (helpOn? name).isSome then unknownCommand next else unknownCommand name

/-- A reading of the words after a separator. No command can be named there. -/
def ofOperands : List String → Reading
  | [] => nothing help
  | word :: _ => if commandNames.contains word then unexpected word else unknownCommand word

/-- The version of the program. -/
def version : Reading := told (programName ++ " " ++ programVersion ++ "\n")

/-- A reading of a name after two dashes before the command. -/
def ofLong (name : String) (value : Option String) : Reading :=
  match name, value with
  | "help", none => told help
  | "version", none => version
  | "help", some v => refused (.unneededValue v "--help") programUsage
  | "version", some v => refused (.unneededValue v "--version") programUsage
  | name, _ => unexpected ("--" ++ name)

/-- A reading of a letter after a dash before the command. -/
def ofShort (letter : Char) : Reading :=
  if letter = Matching.helpLetter then told help
  else if letter = 'V' then version
  else unexpected (String.ofList ['-', letter])

/-- The reading of a command line. -/
def ofWords : List String → Reading
  | [] => nothing help
  | text :: texts =>
    match Word.ofText text with
    | .separator => ofOperands texts
    | .long name value => ofLong name value
    | .short first _ => ofShort first
    | .plain word =>
      if word = helpName then ofHelp texts
      else match ofName? word with
        | some read => read texts
        | none => unknownCommand word

end Reading

end QueryDrill.CommandLine
