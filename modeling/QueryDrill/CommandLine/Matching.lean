import QueryDrill.CommandLine.Parameter
/-!
Matching the words of a command line against a command.

A value that follows its parameter as a word of its own is kept until the next parameter or operand is
met, and only then it is looked at. A word that no parameter answers to is told before a bad value that
is still kept.
-/

namespace QueryDrill.CommandLine

/-! ## 1. Words -/

/-- A word of a command line. -/
inductive Word where
  /-- Two dashes: all words after them are operands. -/
  | separator
  /-- A name after two dashes, with the value that an equals sign attaches. -/
  | long (name : String) (value : Option String)
  /-- Letters after a dash. -/
  | short (first : Char) (rest : List Char)
  | plain (text : String)
  deriving DecidableEq, Repr, Inhabited

namespace Word

/-- What stands before the first equals sign, and what stands after it. -/
def splitEquals : List Char → List Char × Option (List Char)
  | [] => ([], none)
  | c :: cs =>
    if c = '=' then ([], some cs)
    else
      let (name, value) := splitEquals cs
      (c :: name, value)

/-- The word of a text. -/
def ofText (text : String) : Word :=
  match text.toList with
  | ['-', '-'] => separator
  | '-' :: '-' :: cs =>
    let (name, value) := splitEquals cs
    long (String.ofList name) (value.map String.ofList)
  | '-' :: c :: cs => short c cs
  | _ => plain text

end Word

/-! ## 2. Interruptions -/

/-- What is wrong with a command line. -/
inductive Misuse where
  /-- No command answers to a word. -/
  | unknownCommand (word : String)
  /-- Nothing answers to a word. -/
  | unexpected (word : String)
  | missingValue (parameter : String)
  | repeated (parameter : String)
  | badValue (value parameter reason : String)
  | unneededValue (value parameter : String)
  | missingParameters (parameters : List String)
  deriving DecidableEq, Repr, Inhabited

/-- What is said of a misuse. -/
def Misuse.message : Misuse → String
  | unknownCommand word => "error: unrecognized subcommand '" ++ word ++ "'"
  | unexpected word => "error: unexpected argument '" ++ word ++ "' found"
  | missingValue p => "error: a value is required for '" ++ p ++ "' but none was supplied"
  | repeated p => "error: the argument '" ++ p ++ "' cannot be used multiple times"
  | badValue v p reason => "error: invalid value '" ++ v ++ "' for '" ++ p ++ "': " ++ reason
  | unneededValue v p =>
    "error: unexpected value '" ++ v ++ "' for '" ++ p ++ "' found; no more were expected"
  | missingParameters ps =>
    "error: the following required arguments were not provided:"
      ++ String.join (ps.map fun p => "\n  " ++ p)

/-- Why a command line is no request. -/
inductive Interruption where
  | help
  | misuse (m : Misuse)
  deriving DecidableEq, Repr, Inhabited

/-! ## 3. Matching -/

/-- How far the matching of a command has come. -/
structure Matching (σ : Type) where
  request : σ
  /-- The names of the parameters whose values are in the request. -/
  given : List String
  /-- A parameter whose value is not in the request yet, and the value if it has been met. -/
  kept : Option (Parameter σ × Option String)
  /-- Whether the operand has been met. -/
  hasOperand : Bool

namespace Matching

/-- The matching that starts from a request. -/
def start {σ : Type} (request : σ) : Matching σ := ⟨request, [], none, false⟩

/-- Puts a value of a parameter into the request. -/
def put {σ : Type} (p : Parameter σ) (value : String) (m : Matching σ) :
    Except Interruption (Matching σ) :=
  if p.arity ≠ .repeated ∧ p.name ∈ m.given then .error (.misuse (.repeated p.shown))
  else
    match p.take value m.request with
    | .ok request => .ok { m with request := request, given := p.name :: m.given }
    | .error reason => .error (.misuse (.badValue value p.shown reason))

/-- Puts the value that is kept into the request. -/
def settle {σ : Type} (m : Matching σ) : Except Interruption (Matching σ) :=
  match m.kept with
  | none => .ok m
  | some (p, none) => .error (.misuse (.missingValue p.shown))
  | some (p, some value) => put p value { m with kept := none }

/-- Meets a parameter with the value that is attached to it, if one is. -/
def meet {σ : Type} (p : Parameter σ) (attached : Option String) (m : Matching σ) :
    Except Interruption (Matching σ) := do
  let m ← m.settle
  match attached with
  | some value => m.put p value
  | none => if p.takesValue then return { m with kept := some (p, none) } else m.put p ""

/-- Meets a word that stands alone. -/
def meetOperand {σ : Type} (c : Command σ) (text : String) (m : Matching σ) :
    Except Interruption (Matching σ) :=
  match c.operand with
  | none => .error (.misuse (.unexpected text))
  | some o =>
    if m.hasOperand then .error (.misuse (.unexpected text))
    else do
      let m ← m.settle
      return { m with request := o.take text m.request, hasOperand := true }

/-- The letter of the parameter that asks for help. -/
def helpLetter : Char := 'h'

/-- Help, once the value that is kept turns out to be good. -/
def askHelp {σ : Type} (m : Matching σ) : Except Interruption (Matching σ) := do
  let _ ← m.settle
  .error .help

/-- Meets a name after two dashes. -/
def meetLong {σ : Type} (c : Command σ) (name : String) (value : Option String) (m : Matching σ) :
    Except Interruption (Matching σ) :=
  match c.named? name, value with
  | some p, value =>
    match p.takesValue, value with
    | false, some v => .error (.misuse (.unneededValue v p.shown))
    | _, value => m.meet p value
  | none, some v =>
    if name = helpName then .error (.misuse (.unneededValue v ("--" ++ helpName)))
    else .error (.misuse (.unexpected ("--" ++ name)))
  | none, none =>
    if name = helpName then m.askHelp else .error (.misuse (.unexpected ("--" ++ name)))

/-- What the letters after that of a parameter attach to it, an equals sign between them aside. -/
def attachedTo : List Char → Option String
  | [] => none
  | '=' :: cs => some (String.ofList cs)
  | cs => some (String.ofList cs)

/-- Meets letters after a dash. -/
def meetShort {σ : Type} (c : Command σ) (first : Char) (rest : List Char) (m : Matching σ) :
    Except Interruption (Matching σ) :=
  match c.lettered? first, rest with
  | some p, rest =>
    if p.takesValue then m.meet p (attachedTo rest)
    else
      match rest with
      | [] => m.meet p none
      | next :: rest => do meetShort c next rest (← m.meet p none)
  | none, _ =>
    if first = helpLetter then m.askHelp
    else .error (.misuse (.unexpected (String.ofList ['-', first])))

/-- Meets a word: it is the value that a parameter waits for if it can be. -/
def meetWord {σ : Type} (c : Command σ) (text : String) (m : Matching σ) :
    Except Interruption (Matching σ) :=
  match Word.ofText text, m.kept with
  | .plain v, some (p, none) => .ok { m with kept := some (p, some v) }
  | .plain v, _ => m.meetOperand c v
  | .long name value, _ => m.meetLong c name value
  | .short first rest, _ => m.meetShort c first rest
  | .separator, _ => .ok m

/-- Meets the words of a command line. -/
def meetWords {σ : Type} (c : Command σ) : List String → Matching σ → Except Interruption (Matching σ)
  | [], m => m.settle
  | text :: texts, m =>
    match Word.ofText text with
    | .separator => do (← texts.foldlM (fun m text => m.meetOperand c text) m).settle
    | _ => do meetWords c texts (← m.meetWord c text)

end Matching

namespace Command

/-- The parameters that are required but not given. -/
def missing {σ : Type} (c : Command σ) (given : List String) : List String :=
  (c.parameters.filter fun p => p.isRequired && !given.contains p.name).map Parameter.shown

/-- The request that words make of a first one. -/
def read {σ : Type} (c : Command σ) (request : σ) (words : List String) : Except Interruption σ := do
  let m ← Matching.meetWords c words (.start request)
  if (c.missing m.given).isEmpty then return m.request
  else .error (.misuse (.missingParameters (c.missing m.given)))

end Command

end QueryDrill.CommandLine
