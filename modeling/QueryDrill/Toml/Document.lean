import QueryDrill.Toml.Scan
import QueryDrill.Toml.Table
/-!
TOML texts.

A text gives the same kind of value as a JSON text does, so records are read out of both alike.
-/

namespace QueryDrill.Toml

/-! ## 1. Values -/

/-- Reads the items of an array after its bracket or a comma; `fuel` bounds their number. -/
def arrayItems (item : Reader Json) : Nat → Reader (List Json)
  | 0, _ => none
  | fuel + 1, cs =>
    match skipSpace cs with
    | ']' :: rest => some ([], rest)
    | rest => do
      let (v, rest) ← item rest
      match skipSpace rest with
      | ',' :: rest => do
        let (vs, rest) ← arrayItems item fuel rest
        return (v :: vs, rest)
      | ']' :: rest => return ([v], rest)
      | _ => none

/-- The path and the last part of a key. -/
def splitKey : List String → Option (List String × String)
  | [] => none
  | [key] => some ([], key)
  | part :: parts => (splitKey parts).map fun (path, key) => (part :: path, key)

/-- Reads a key, the equals sign and a value. -/
def keyValue (item : Reader Json) : Reader (List String × String × Json) := fun cs => do
  let (parts, rest) ← key cs
  let (path, last) ← splitKey parts
  let (v, rest) ← item (skipBlanks (← expect '=' rest))
  return ((path, last, v), rest)

/-- Reads the entries of a table between braces; `fuel` bounds their number. -/
def inlineEntries (item : Reader Json) : Nat → Reader (List (List String × String × Json))
  | 0, _ => none
  | fuel + 1, cs => do
    let (e, rest) ← keyValue item cs
    match skipBlanks rest with
    | ',' :: rest => do
      let (es, rest) ← inlineEntries item fuel rest
      return (e :: es, rest)
    | '\x7d' :: rest => return ([e], rest)
    | _ => none

/-- Reads a table after its opening brace. -/
def inlineTable (item : Reader Json) : Reader Json := fun cs =>
  match skipBlanks cs with
  | '\x7d' :: rest => some (.object [], rest)
  | rest => do
    let (es, rest) ← inlineEntries item (rest.length + 1) rest
    return ((← Table.empty.addValues es).toJson, rest)

/-- Reads a value; `nested` reads what is inside arrays and tables, unless they are too deep. -/
def valueWith (nested : Option (Reader Json)) : Reader Json := fun cs =>
  match cs with
  | '"' :: _ => (string? cs).map fun (s, rest) => (.string s, rest)
  | '\'' :: _ => (string? cs).map fun (s, rest) => (.string s, rest)
  | '[' :: rest => do
    let (vs, rest) ← arrayItems (← nested) (rest.length + 1) rest
    return (.array vs, rest)
  | '\x7b' :: rest => do inlineTable (← nested) rest
  | 't' :: 'r' :: 'u' :: 'e' :: rest => some (.bool true, rest)
  | 'f' :: 'a' :: 'l' :: 's' :: 'e' :: rest => some (.bool false, rest)
  | _ => numberOrTime cs

/-- Reads a value of a limited depth. -/
def value : Nat → Reader Json
  | 0 => valueWith none
  | depth + 1 => valueWith (some (value depth))

/-! ## 2. Documents -/

/-- Reads the lines with values up to a header or the end; `fuel` bounds their number. -/
def body : Nat → Reader (List (List String × String × Json))
  | 0, _ => none
  | fuel + 1, cs =>
    match skipSpace cs with
    | [] => some ([], [])
    | '[' :: rest => some ([], '[' :: rest)
    | rest => do
      let (e, rest) ← keyValue (value depthLimit) rest
      let (es, rest) ← body fuel (← lineEnd? rest)
      return (e :: es, rest)

/-- A part of a document: a header and the values under it. -/
structure Section where
  isArray : Bool
  path : List String
  key : String
  values : List (List String × String × Json)

/-- Reads a header and its line end: whether it is in double brackets, and its key. -/
def header : Reader (Bool × List String)
  | '[' :: '[' :: cs => do
    let (parts, rest) ← key cs
    let rest ← lineEnd? (← expect ']' (← expect ']' rest))
    return ((true, parts), rest)
  | '[' :: cs => do
    let (parts, rest) ← key cs
    let rest ← lineEnd? (← expect ']' rest)
    return ((false, parts), rest)
  | _ => none

/-- Reads all sections; `fuel` bounds their number. -/
def sections : Nat → List Char → Option (List Section)
  | 0, _ => none
  | _ + 1, [] => some []
  | fuel + 1, cs => do
    let ((isArray, parts), rest) ← header cs
    let (path, key) ← splitKey parts
    let (values, rest) ← body (rest.length + 1) rest
    return ⟨isArray, path, key, values⟩ :: (← sections fuel rest)

/-- Adds a section to a table. -/
def addSection (t : Table) (s : Section) : Option Table :=
  if s.isArray then t.addArrayTable s.path s.key s.values else t.addTable s.path s.key s.values

/-- A text without the mark of its encoding. -/
def dropMark : List Char → List Char
  | '\ufeff' :: cs => cs
  | cs => cs

/-- Reads a text: an object, or nothing if the text does not read. -/
def parse? (text : String) : Option Json := do
  let cs := dropMark text.toList
  let (values, rest) ← body (cs.length + 1) cs
  let parts ← sections (rest.length + 1) rest
  return (← parts.foldlM addSection (← Table.empty.addValues values)).toJson

theorem exists_fields_of_parse? {text : String} {v : Json} (h : parse? text = some v) :
    ∃ fields, v = .object fields := by
  obtain ⟨_, -, h⟩ := Option.bind_eq_some_iff.1 h
  obtain ⟨_, -, h⟩ := Option.bind_eq_some_iff.1 h
  obtain ⟨_, -, h⟩ := Option.bind_eq_some_iff.1 h
  obtain ⟨⟨_, _, entries⟩, -, h⟩ := Option.bind_eq_some_iff.1 h
  exact ⟨entriesJson entries, (Option.some.inj h).symm⟩

end QueryDrill.Toml
