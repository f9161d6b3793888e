/-!
Commands and their parameters, as data.

A command builds up a request of some type; each of its parameters says how the request changes when the
parameter is given. The help on a command is made from the same data.
-/

namespace QueryDrill.CommandLine

/-! ## 1. Parameters -/

/-- How a parameter is given. -/
inductive Arity where
  /-- At most once, without a value. -/
  | flag
  /-- At most once, with a value. -/
  | single
  /-- Any number of times, each time with a value. -/
  | repeated
  deriving DecidableEq, Repr, Inhabited

/-- A parameter of a command that builds requests of type `σ`. -/
structure Parameter (σ : Type) where
  name : String
  /-- The letter that may stand for the name. -/
  letter : Option Char
  /-- The word for the value. -/
  placeholder : String
  arity : Arity
  isRequired : Bool
  /-- What the value is taken to be when the parameter is not given. -/
  fallback : Option String
  about : String
  /-- The request after a value, or what is wrong with the value. -/
  take : String → σ → Except String σ

namespace Parameter

/-- A parameter that takes any text and may be left out. -/
def text {σ : Type} (name placeholder about : String) (set : String → σ → σ) : Parameter σ :=
  ⟨name, none, placeholder, .single, false, none, about, fun v r => .ok (set v r)⟩

/-- A parameter whose value is read and may be left out. -/
def value {σ α : Type} (name placeholder about : String) (read : String → Except String α)
    (set : α → σ → σ) : Parameter σ :=
  ⟨name, none, placeholder, .single, false, none, about, fun v r => return set (← read v) r⟩

/-- A parameter without a value. -/
def switch {σ : Type} (name about : String) (set : σ → σ) : Parameter σ :=
  ⟨name, none, "", .flag, false, none, about, fun _ r => .ok (set r)⟩

/-- The parameter, with a letter for its name. -/
def withLetter {σ : Type} (c : Char) (p : Parameter σ) : Parameter σ := { p with letter := some c }

/-- The parameter, given at least once. -/
def required {σ : Type} (p : Parameter σ) : Parameter σ := { p with isRequired := true }

/-- The parameter, given any number of times. -/
def many {σ : Type} (p : Parameter σ) : Parameter σ := { p with arity := .repeated }

/-- The parameter, with the value that it has when it is not given. -/
def withFallback {σ : Type} (v : String) (p : Parameter σ) : Parameter σ := { p with fallback := some v }

/-- Whether a parameter takes a value. -/
def takesValue {σ : Type} (p : Parameter σ) : Bool := p.arity != .flag

/-- A parameter as messages show it. -/
def shown {σ : Type} (p : Parameter σ) : String :=
  if p.takesValue then "--" ++ p.name ++ " <" ++ p.placeholder ++ ">" else "--" ++ p.name

end Parameter

/-- A value that stands alone, which may be left out. -/
structure Operand (σ : Type) where
  placeholder : String
  about : String
  take : String → σ → σ

/-- A command. -/
structure Command (σ : Type) where
  name : String
  about : String
  operand : Option (Operand σ)
  parameters : List (Parameter σ)

namespace Command

/-- The parameter with a name. -/
def named? {σ : Type} (c : Command σ) (name : String) : Option (Parameter σ) :=
  c.parameters.find? (·.name == name)

/-- The parameter that a letter stands for. -/
def lettered? {σ : Type} (c : Command σ) (letter : Char) : Option (Parameter σ) :=
  c.parameters.find? (·.letter == some letter)

end Command

/-! ## 2. Help -/

/-- The name of the program. -/
def programName : String := "sqlgen"

/-- What the program is for. -/
def programAbout : String := "Constraint-driven generation of SQL exercises"

/-- The version of the program. -/
def programVersion : String := "0.1.0"

/-- A text filled up with blanks to a width. -/
def padEnd (width : Nat) (text : String) : String :=
  text ++ String.ofList (List.replicate (width - text.length) ' ')

/-- Two columns, the first one as wide as it needs to be. -/
def columns (rows : List (String × String)) : String :=
  let width := (rows.map fun row => row.1.length).foldl max 0
  String.join (rows.map fun (first, second) => "  " ++ padEnd width first ++ "  " ++ second ++ "\n")

/-- A section of a help text; nothing if it has no rows. -/
def section? (title : String) (rows : List (String × String)) : String :=
  if rows.isEmpty then "" else "\n" ++ title ++ ":\n" ++ columns rows

/-- The row on the parameter that asks for help. -/
def helpRow : String × String := ("-h, --help", "Print help")

/-- The row on a parameter. -/
def Parameter.row {σ : Type} (p : Parameter σ) : String × String :=
  let start := match p.letter with
    | some c => String.ofList ['-', c, ',', ' ']
    | none => "    "
  let fallback := match p.fallback with
    | some v => " [default: " ++ v ++ "]"
    | none => ""
  (start ++ p.shown, p.about ++ fallback)

namespace Command

/-- How a command is called. -/
def usage {σ : Type} (c : Command σ) : String :=
  let needed := (c.parameters.filter Parameter.isRequired).map fun p => " " ++ p.shown
  let operand := match c.operand with
    | some o => " [" ++ o.placeholder ++ "]"
    | none => ""
  "Usage: " ++ programName ++ " " ++ c.name ++ " [OPTIONS]" ++ String.join needed ++ operand

/-- The help on a command. -/
def help {σ : Type} (c : Command σ) : String :=
  c.about ++ "\n\n" ++ c.usage ++ "\n"
    ++ section? "Arguments" (c.operand.toList.map fun o => ("[" ++ o.placeholder ++ "]", o.about))
    ++ section? "Options" (c.parameters.map Parameter.row ++ [helpRow])

/-- The row on a command. -/
def row {σ : Type} (c : Command σ) : String × String := (c.name, c.about)

end Command

/-- The name of the command that gives help. -/
def helpName : String := "help"

/-- What the command that gives help is for. -/
def helpAbout : String := "Print this message or the help of the given subcommand(s)"

/-- How the program is called. -/
def programUsage : String := "Usage: " ++ programName ++ " <COMMAND>"

/-- The help on the program, with a row on each command. -/
def programHelp (commands : List (String × String)) : String :=
  programAbout ++ "\n\n" ++ programUsage ++ "\n"
    ++ section? "Commands" (commands ++ [(helpName, helpAbout)])
    ++ section? "Options" [helpRow, ("-V, --version", "Print version")]

/-- The help on the command that gives help. -/
def helpOnHelp : String :=
  helpAbout ++ "\n\nUsage: " ++ programName ++ " " ++ helpName ++ " [COMMAND]...\n"
    ++ section? "Arguments" [("[COMMAND]...", "Print help for the subcommand(s)")]

end QueryDrill.CommandLine
