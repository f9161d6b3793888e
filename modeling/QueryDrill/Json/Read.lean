import QueryDrill.Json.Scan
import QueryDrill.Number.Shortest
import QueryDrill.Text.Shown
/-!
Reading JSON texts: any value, or a value of an expected form.

A text of an expected form is read without building the values in between, so the first fault in the text
is the one that is reported.
-/

namespace QueryDrill

namespace JsonReader

/-! ## 1. Lists and objects -/

/-- Reads the items of an array after its bracket; `fuel` bounds their number. -/
def items {α : Type} (item : JsonReader α) : Nat → Bool → JsonReader (List α)
  | 0, _, cs => failHere .endInList cs
  | fuel + 1, isFirst, cs =>
    let more (rest : List Char) : Except JsonFault (List α × List Char) := do
      let (a, rest) ← item rest
      let (others, rest) ← items item fuel false rest
      return (a :: others, rest)
    match skipBlanks cs with
    | [] => failHere .endInList []
    | c :: rest =>
      if c = ']' then .ok ([], rest)
      else if isFirst then more (c :: rest)
      else if c = ',' then
        match skipBlanks rest with
        | [] => failHere .endInValue []
        | d :: rest => if d = ']' then failNext .trailingComma (d :: rest) else more (d :: rest)
      else failNext .expectedCommaOrBracket (c :: rest)

/-- Reads an array after its bracket. -/
def arrayOf {α : Type} (item : JsonReader α) : JsonReader (List α) := fun cs =>
  items item (cs.length + 1) true cs

/-- A text after the blanks and the closing character at its start. -/
def pastClosing (closing : Char) (cs : List Char) : List Char :=
  match skipBlanks cs with
  | c :: rest => if c = closing then rest else c :: rest
  | [] => []

/-- Reads the colon between a name and its value. -/
def colon (cs : List Char) : Except JsonFault (List Char) :=
  match skipBlanks cs with
  | [] => failHere .endInObject []
  | c :: rest => if c = ':' then .ok rest else failNext .expectedColon (c :: rest)

/-- Reads the fields of an object after its brace; `fuel` bounds their number, `seen` holds the names so
far, and `refuse` tells what is wrong with a name. -/
def fields {α : Type} (refuse : List String → String → Option JsonError) (value : String → JsonReader α) :
    Nat → List String → JsonReader (List (String × α))
  | 0, _, cs => failHere .endInObject cs
  | fuel + 1, seen, cs =>
    let more : JsonReader (List (String × α))
      | '"' :: rest => do
        let (name, rest) ← stringBody rest
        match refuse seen name with
        | some e => failHere e (pastClosing '\x7d' rest)
        | none =>
          let (v, rest) ← value name (← colon rest)
          let (others, rest) ← fields refuse value fuel (name :: seen) rest
          return ((name, v) :: others, rest)
      | rest => failNext .keyNotString rest
    match skipBlanks cs with
    | [] => failHere .endInObject []
    | c :: rest =>
      if c = '\x7d' then .ok ([], rest)
      else if seen.isEmpty then more (c :: rest)
      else if c = ',' then
        match skipBlanks rest with
        | [] => failHere .endInValue []
        | d :: rest => if d = '\x7d' then failNext .trailingComma (d :: rest) else more (d :: rest)
      else failNext .expectedCommaOrBrace (c :: rest)

/-- Reads an object after its brace. -/
def objectOf {α : Type} (refuse : List String → String → Option JsonError)
    (value : String → JsonReader α) : JsonReader (List (String × α)) := fun cs =>
  fields refuse value (cs.length + 1) [] cs

/-! ## 2. Any value -/

/-- Reads a value; `nested` reads what is inside arrays and objects, unless they are too deep. -/
def valueWith (nested : Option (JsonReader Json)) : JsonReader Json := fun cs =>
  match skipBlanks cs with
  | [] => failHere .endInValue []
  | c :: rest =>
    if c = 'n' then return (.null, ← word ['u', 'l', 'l'] rest)
    else if c = 't' then return (.bool true, ← word ['r', 'u', 'e'] rest)
    else if c = 'f' then return (.bool false, ← word ['a', 'l', 's', 'e'] rest)
    else if c = '-' then do
      let (n, rest) ← numberBody true rest
      return (.number n, rest)
    else if c.isDigit then do
      let (n, rest) ← numberBody false (c :: rest)
      return (.number n, rest)
    else if c = '"' then do
      let (s, rest) ← stringBody rest
      return (.string s, rest)
    else if c = '[' then
      match nested with
      | some value => do
        let (vs, rest) ← arrayOf value rest
        return (.array vs, rest)
      | none => failNext .tooDeep (c :: rest)
    else if c = '\x7b' then
      match nested with
      | some value => do
        let (fs, rest) ← objectOf (fun _ _ => none) (fun _ => value) rest
        return (.object (Keyed.ofList fs).entries, rest)
      | none => failNext .tooDeep (c :: rest)
    else failNext .expectedValue (c :: rest)

/-- Reads a value of a limited depth. -/
def value : Nat → JsonReader Json
  | 0 => valueWith none
  | depth + 1 => valueWith (some (value depth))

/-- How deep values may be. -/
def depthLimit : Nat := 127

/-! ## 3. Passing over a value -/

/-- An array or an object that has been entered. -/
inductive Bracket where
  | square
  | curly
  deriving DecidableEq, Repr

namespace Bracket

/-- The character that closes a bracket. -/
def closing : Bracket → Char
  | square => ']'
  | curly => '\x7d'

/-- The error if the text ends inside a bracket. -/
def atEnd : Bracket → JsonError
  | square => .endInList
  | curly => .endInObject

/-- The error if neither a comma nor the closing bracket follows. -/
def atOther : Bracket → JsonError
  | square => .expectedCommaOrBracket
  | curly => .expectedCommaOrBrace

end Bracket

/-- Passes over a simple value; nothing if the value is an array or an object. -/
def skipScalar : List Char → Except JsonFault (List Char)
  | [] => failHere .endInValue []
  | c :: rest =>
    if c = 'n' then word ['u', 'l', 'l'] rest
    else if c = 't' then word ['r', 'u', 'e'] rest
    else if c = 'f' then word ['a', 'l', 's', 'e'] rest
    else if c = '-' then skipNumber rest
    else if c.isDigit then skipNumber (c :: rest)
    else if c = '"' then skipString rest
    else failNext .expectedValue (c :: rest)

/-- Passes over the name of a field and its colon, inside an object. -/
def skipName (b : Bracket) (cs : List Char) : Except JsonFault (List Char) :=
  match b with
  | .square => .ok cs
  | .curly =>
    match skipBlanks cs with
    | [] => failHere .endInObject []
    | c :: rest => if c = '"' then do colon (← skipString rest) else failNext .keyNotString (c :: rest)

/-- What comes next when a value is passed over. -/
inductive SkipStep where
  | value
  /-- The end of a bracket, or another member, which needs a comma unless it is the first. -/
  | member (needsComma : Bool)

/-- Passes over what is left of a value inside some brackets, the innermost first; `fuel` bounds the
number of steps. -/
def skipSteps : Nat → SkipStep → List Bracket → List Char → Except JsonFault (List Char)
  | 0, _, _, cs => .ok cs
  | fuel + 1, .value, inside, cs =>
    match skipBlanks cs with
    | '[' :: rest => skipSteps fuel (.member false) (.square :: inside) rest
    | '\x7b' :: rest => skipSteps fuel (.member false) (.curly :: inside) rest
    | rest => do skipSteps fuel (.member true) inside (← skipScalar rest)
  | _ + 1, .member _, [], cs => .ok cs
  | fuel + 1, .member needsComma, b :: inside, cs =>
    match skipBlanks cs with
    | [] => failHere b.atEnd []
    | c :: rest =>
      if c = b.closing then skipSteps fuel (.member true) inside rest
      else if !needsComma then do skipSteps fuel .value (b :: inside) (← skipName b (c :: rest))
      else if c = ',' then do skipSteps fuel .value (b :: inside) (← skipName b rest)
      else failNext b.atOther (c :: rest)

/-- Passes over a value. -/
def skipValue (cs : List Char) : Except JsonFault (List Char) :=
  skipSteps (2 * cs.length + 2) .value [] cs

/-! ## 4. Values of an expected form -/

/-- A number as errors show it. -/
def shownNumber : JsonNumber → String
  | .whole n => "integer `" ++ toString n ++ "`"
  | .real (.finite negative m e) => "floating point `" ++ Binary.pointed .double negative m e ++ "`"
  | .real x => "floating point `" ++ x.plain .double ++ "`"

/-- Refuses a value that has not the expected kind, at its end if it is simple and at its start
otherwise. -/
def refuseKind {α : Type} (expected : String) : List Char → Except JsonFault α
  | [] => failHere .endInValue []
  | c :: rest =>
    let refuse (found : String) (rest : List Char) : Except JsonFault α :=
      failHere (.wrongKind found expected) rest
    if c = 'n' then do refuse "null" (← word ['u', 'l', 'l'] rest)
    else if c = 't' then do refuse "boolean `true`" (← word ['r', 'u', 'e'] rest)
    else if c = 'f' then do refuse "boolean `false`" (← word ['a', 'l', 's', 'e'] rest)
    else if c = '-' then do
      let (n, rest) ← numberBody true rest
      refuse (shownNumber n) rest
    else if c.isDigit then do
      let (n, rest) ← numberBody false (c :: rest)
      refuse (shownNumber n) rest
    else if c = '"' then do
      let (s, rest) ← stringBody rest
      refuse ("string " ++ Text.shownText s) rest
    else if c = '[' then refuse "sequence" (c :: rest)
    else if c = '\x7b' then refuse "map" (c :: rest)
    else failNext .expectedValue (c :: rest)

/-- Reads a string. -/
def text : JsonReader String := fun cs =>
  match skipBlanks cs with
  | '"' :: rest => stringBody rest
  | rest => refuseKind "a string" rest

/-- Reads a list of strings. -/
def texts : JsonReader (List String) := fun cs =>
  match skipBlanks cs with
  | '[' :: rest => arrayOf text rest
  | rest => refuseKind "a sequence" rest

/-- Reads the fields of a record that is written as an array, in their order. -/
def positions {α : Type} (expected : String) (value : JsonReader α) : Nat → Nat → JsonReader (List α)
  | _, 0, cs => 
    match skipBlanks cs with
    | [] => failHere .endInList []
    | c :: rest =>
      if c = ']' then .ok ([], rest)
      else if c = ',' then
        match skipBlanks rest with
        | d :: rest => if d = ']' then failNext .trailingComma (d :: rest) else failNext .trailingCharacters (d :: rest)
        | [] => failNext .trailingCharacters []
      else failNext .trailingCharacters (c :: rest)
  | done, left + 1, cs =>
    let more (rest : List Char) : Except JsonFault (List α × List Char) := do
      let (a, rest) ← value rest
      let (others, rest) ← positions expected value (done + 1) left rest
      return (a :: others, rest)
    match skipBlanks cs with
    | [] => failHere .endInList []
    | c :: rest =>
      if c = ']' then failHere (.wrongLength done expected) rest
      else if done = 0 then more (c :: rest)
      else if c = ',' then
        match skipBlanks rest with
        | [] => failHere .endInValue []
        | d :: rest => if d = ']' then failNext .trailingComma (d :: rest) else more (d :: rest)
      else failNext .expectedCommaOrBracket (c :: rest)

/-- The values of the named fields, or the first name that is missing. -/
def pick {α : Type} (found : List (String × α)) : List String → Except String (List α)
  | [] => .ok []
  | name :: names =>
    match found.lookup name with
    | some v => (pick found names).map (v :: ·)
    | none => .error name

/-- Reads a record whose fields have values of one form. Other fields are passed over. -/
def record {α : Type} (title : String) (names : List String) (value : JsonReader α) :
    JsonReader (List α) := fun cs =>
  match skipBlanks cs with
  | '[' :: rest =>
    positions (title ++ " with " ++ toString names.length ++ " elements") value 0 names.length rest
  | '\x7b' :: rest => do
    let refuse (seen : List String) (name : String) : Option JsonError :=
      if names.contains name && seen.contains name then some (.repeatedField name) else none
    let field (name : String) : JsonReader (Option α) := fun cs =>
      if names.contains name then (value cs).map fun (a, rest) => (some a, rest)
      else (skipValue cs).map fun rest => (none, rest)
    let (found, rest) ← objectOf refuse field rest
    match pick (found.filterMap fun (name, v) => v.map fun v => (name, v)) names with
    | .ok vs => .ok (vs, rest)
    | .error name => failHere (.missingField name) rest
  | rest => refuseKind title rest

/-! ## 5. Whole texts -/

/-- Reads a text to its end. -/
def readAll {α : Type} (reader : JsonReader α) (source : String) : Except JsonFault α := do
  let (a, rest) ← reader source.toList
  match skipBlanks rest with
  | [] => return a
  | rest => failNext .trailingCharacters rest

end JsonReader

/-- Reads any value. -/
def Json.parse (source : String) : Except JsonFault Json :=
  JsonReader.readAll (JsonReader.value JsonReader.depthLimit) source

end QueryDrill
