import QueryDrill.Sql.Grammar.Basic
import QueryDrill.Sql.Print
/-!
Data types.

Nothing looks into a data type, so it is kept as its text. The two facts that the grammar of literals
asks for are kept beside it: whether the type is `INTERVAL`, and whether its name is none that the
grammar knows.
-/

namespace QueryDrill.Sql

/-- What the grammar of literals asks about a data type. -/
inductive DataTypeKind where
  | known
  | interval
  | unknown
  deriving DecidableEq, Repr

/-- A data type by its text. -/
structure DataType where
  text : String
  kind : DataTypeKind
  deriving DecidableEq, Repr

namespace Parser

/-- The length of a character type, in parentheses, or nothing. -/
def characterLength? : Parser String := do
  unless ← symbol? "(" do return ""
  if ← keyword? "MAX" then
    symbol ")"
    return "(MAX)"
  let n ← wholeNumber
  let unit ← do
    if ← keyword? "CHARACTERS" then pure " CHARACTERS"
    else if ← keyword? "OCTETS" then pure " OCTETS"
    else pure ""
  symbol ")"
  return "(" ++ toString n ++ unit ++ ")"

/-- The precision and the scale of an exact number, in parentheses, or nothing. -/
def precisionScale? : Parser String := do
  unless ← symbol? "(" do return ""
  let precision ← wholeNumber
  if ← symbol? "," then
    let scale ← wholeNumber
    symbol ")"
    return "(" ++ toString precision ++ "," ++ toString scale ++ ")"
  symbol ")"
  return "(" ++ toString precision ++ ")"

/-- An integer type with its display width and its sign. -/
def integerType (word : String) : Parser String := do
  let width ← precision?
  if ← keyword? "UNSIGNED" then return word ++ width ++ " UNSIGNED"
  return word ++ width

/-- A character type that may be of varying length or a large object. -/
def characterType (word : String) : Parser String := do
  if ← keyword? "VARYING" then return word ++ " VARYING" ++ (← characterLength?)
  if ← keywords? ["LARGE", "OBJECT"] then return word ++ " LARGE OBJECT" ++ (← precision?)
  return word ++ (← characterLength?)

/-- A time type with its precision and whether it has a time zone. -/
def timeType (word : String) : Parser String := do
  let precision ← precision?
  if ← keyword? "WITH" then
    keywords ["TIME", "ZONE"]
    return word ++ precision ++ " WITH TIME ZONE"
  if ← keyword? "WITHOUT" then
    keywords ["TIME", "ZONE"]
    return word ++ precision ++ " WITHOUT TIME ZONE"
  return word ++ precision

/-- The strings of an enumeration. -/
def enumeration (word : String) : Parser String := do
  let string : Parser String := do
    let ts ← get
    match ← next? with
    | some (.singleQuoted s) => return s
    | _ => failAt ts "a string"
  symbol "("
  let first ← string
  let more ← repeatWhile (fun entries => do
    let ts ← get
    match ← next? with
    | some (.symbol ",") => return some ((← string) :: entries)
    | some (.symbol ")") => return none
    | _ => failAt ts ", or \x7d") []
  return word ++ "(" ++ commaList ((first :: more.reverse).map (quoted '\'')) ++ ")"

/-- What stands in parentheses after the name of a type that the grammar does not know. -/
def typeModifiers? : Parser String := do
  unless ← symbol? "(" do return ""
  let modifiers ← repeatWhile (fun entries => do
    let ts ← get
    match ← next? with
    | some (.word v q k) => return some ((Token.word v q k).text :: entries)
    | some (.number n _) => return some (n :: entries)
    | some (.singleQuoted s) => return some (s :: entries)
    | some (.symbol ",") => return some entries
    | some (.symbol ")") => return none
    | _ => failAt ts "type modifiers") []
  return if modifiers.isEmpty then "" else "(" ++ commaList modifiers.reverse ++ ")"

/-- The types that are one word. -/
def plainTypes : List String :=
  ["BOOLEAN", "BOOL", "REAL", "FLOAT4", "FLOAT64", "FLOAT8", "INT64", "UUID", "DATE", "JSON", "JSONB",
   "REGCLASS", "TEXT", "BYTEA"]

/-- The types that are a word and perhaps a precision. -/
def precisionTypes : List String :=
  ["FLOAT", "NVARCHAR", "CLOB", "BINARY", "VARBINARY", "BLOB", "BYTES", "DATETIME", "TIMESTAMPTZ", "TIMETZ",
   "STRING"]

/-- The integer types. -/
def integerTypes : List String :=
  ["TINYINT", "INT2", "SMALLINT", "MEDIUMINT", "INT", "INT4", "INTEGER", "BIGINT", "INT8"]

/-- The exact number types. -/
def exactTypes : List String := ["NUMERIC", "DECIMAL", "DEC", "BIGNUMERIC", "BIGDECIMAL"]

/-- The array suffixes of a type. -/
def arraySuffixes : Parser String :=
  repeatWhile (fun text => do
    if ← symbol? "[" then
      symbol "]"
      return some (text ++ "[]")
    return none) ""

/-- The end of a bracket, which the type inside it may have `closed` already: `>>` closes two. Whether the
last token closes a bracket too many. -/
def closeBracket (closed : Bool) : Parser Bool := do
  if closed then return false
  if ← symbol? ">" then return false
  if ← symbol? ">>" then return true
  fail ">"

/-- The fields of a row type, after its opening word, and whether the last token closes a bracket too many;
`inner` is the type of a field and `start` the tokens from the opening word on. -/
def rowFields (start : List Token) (inner : Parser (DataType × Bool)) : Parser (List String × Bool) := do
  unless ← symbol? "<" do return ([], false)
  let field : Parser (String × Bool) := do
    let label ← match ← get with
      | .word .. :: .word .. :: _ => do pure ((← ident).sql ++ " ")
      | _ => pure ""
    let (type, closed) ← inner
    return (label ++ type.text, closed)
  let (first, closed) ← field
  let (fields, closed) ← repeatWhile (fun (fields, closed) => do
    unless ← symbol? "," do return none
    if closed then refuseAt start "unmatched > in STRUCT definition"
    let (next, closed) ← field
    return some (next :: fields, closed)) ([first], closed)
  return (fields.reverse, ← closeBracket closed)

/-- A row type with its fields in brackets. -/
def rowTypeText (fields : List String) : String :=
  "STRUCT" ++ if fields.isEmpty then "" else "<" ++ commaList fields ++ ">"

/-- A type without its array suffixes, and whether its last token closes a bracket too many; `inner` is a
type in brackets. -/
def baseType (inner : Parser (DataType × Bool)) : Parser (DataType × Bool) := do
  let d ← dialect
  let ts ← get
  let known (p : Parser String) : Parser (DataType × Bool) := do return (⟨← p, .known⟩, false)
  match ← next? with
  | some (.word _ _ k) =>
    if plainTypes.contains k then known (pure k)
    else if precisionTypes.contains k then known (do return k ++ (← precision?))
    else if integerTypes.contains k then known (integerType k)
    else if exactTypes.contains k then known (do return k ++ (← precisionScale?))
    else if k = "VARCHAR" then known (do return k ++ (← characterLength?))
    else if k = "CHARACTER" || k = "CHAR" then known (characterType k)
    else if k = "TIMESTAMP" || k = "TIME" then known (timeType k)
    else if k = "ENUM" || k = "SET" then known (enumeration k)
    else if k = "DOUBLE" then
      known (do if ← keyword? "PRECISION" then return "DOUBLE PRECISION" else return "DOUBLE")
    else if k = "INTERVAL" then return (⟨"INTERVAL", .interval⟩, false)
    else if k = "ARRAY" then
      symbol "<"
      let (element, closed) ← inner
      return (⟨"ARRAY<" ++ element.text ++ ">", .known⟩, ← closeBracket closed)
    else if k = "STRUCT" && d = .generic then
      let (fields, closed) ← rowFields ts inner
      return (⟨rowTypeText fields, .known⟩, closed)
    else
      set ts
      let typeName ← name
      let modifiers ← typeModifiers?
      return (⟨nameSql typeName ++ modifiers, .unknown⟩, false)
  | _ => failAt ts "a data type name"

/-- A data type, and whether its last token closes a bracket too many. `fuel` bounds the nesting of
brackets. -/
def openType : Nat → Parser (DataType × Bool)
  | 0 => fail "a data type name"
  | fuel + 1 => do
    let (base, closed) ← baseType (openType fuel)
    let suffixes ← arraySuffixes
    if suffixes = "" then return (base, closed)
    return (⟨base.text ++ suffixes, .known⟩, closed)

/-- A data type inside brackets, and whether its last token closes a bracket too many. -/
def innerType : Parser (DataType × Bool) := do openType ((← get).length + 1)

/-- A data type. -/
def dataType : Parser DataType := do
  let (type, closed) ← innerType
  if closed then refuse ("unmatched > after parsing data type " ++ type.text ++ foundText (← get))
  return type

end Parser

end QueryDrill.Sql
