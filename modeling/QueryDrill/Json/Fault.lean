/-!
What can be wrong with a JSON text, and where.

A fault keeps the rest of the text at which it arose. Its line and column follow from how much of the text
had been read; a column counts bytes, and the byte after a line break is in column 0 of the next line.
-/

namespace QueryDrill

/-- What is wrong with a JSON text. -/
inductive JsonError where
  | endInList
  | endInObject
  | endInString
  | endInValue
  | expectedColon
  | expectedCommaOrBracket
  | expectedCommaOrBrace
  | expectedWord
  | expectedValue
  | badEscape
  | badNumber
  | numberTooLarge
  | controlCharacter
  | keyNotString
  | loneSurrogate
  | unfinishedSurrogate
  | trailingComma
  | trailingCharacters
  | tooDeep
  /-- A value of another kind than the expected one. -/
  | wrongKind (found expected : String)
  | wrongLength (found : Nat) (expected : String)
  | missingField (name : String)
  | repeatedField (name : String)
  deriving DecidableEq, Repr, Inhabited

/-- The wording of an error. -/
def JsonError.text : JsonError → String
  | endInList => "EOF while parsing a list"
  | endInObject => "EOF while parsing an object"
  | endInString => "EOF while parsing a string"
  | endInValue => "EOF while parsing a value"
  | expectedColon => "expected `:`"
  | expectedCommaOrBracket => "expected `,` or `]`"
  | expectedCommaOrBrace => "expected `,` or `\x7d`"
  | expectedWord => "expected ident"
  | expectedValue => "expected value"
  | badEscape => "invalid escape"
  | badNumber => "invalid number"
  | numberTooLarge => "number out of range"
  | controlCharacter => "control character (\\u0000-\\u001F) found while parsing a string"
  | keyNotString => "key must be a string"
  | loneSurrogate => "lone leading surrogate in hex escape"
  | unfinishedSurrogate => "unexpected end of hex escape"
  | trailingComma => "trailing comma"
  | trailingCharacters => "trailing characters"
  | tooDeep => "recursion limit exceeded"
  | wrongKind found expected => "invalid type: " ++ found ++ ", expected " ++ expected
  | wrongLength found expected => "invalid length " ++ toString found ++ ", expected " ++ expected
  | missingField name => "missing field `" ++ name ++ "`"
  | repeatedField name => "duplicate field `" ++ name ++ "`"

/-- A line, counted from one, and a column of bytes. -/
structure JsonPlace where
  line : Nat
  column : Nat
  deriving DecidableEq, Repr, Inhabited

namespace JsonPlace

/-- The place before any character. -/
def start : JsonPlace := ⟨1, 0⟩

/-- The place after one more byte. -/
def afterByte (p : JsonPlace) (byte : UInt8) : JsonPlace :=
  if byte = 10 then ⟨p.line + 1, 0⟩ else ⟨p.line, p.column + 1⟩

/-- The place after some bytes. -/
def afterBytes (p : JsonPlace) (bytes : List UInt8) : JsonPlace := bytes.foldl afterByte p

end JsonPlace

/-- The bytes of characters. -/
def bytesOf (cs : List Char) : List UInt8 := cs.flatMap String.utf8EncodeChar

/-- An error, the rest of the text where it arose, and how many bytes of that rest belong to it. -/
structure JsonFault where
  error : JsonError
  rest : List Char
  ahead : Nat
  deriving DecidableEq, Repr, Inhabited

namespace JsonFault

/-- Where in a text a fault is. -/
def place (text : String) (f : JsonFault) : JsonPlace :=
  let read := text.toList.take (text.toList.length - f.rest.length)
  JsonPlace.start.afterBytes (bytesOf read ++ (bytesOf f.rest).take f.ahead)

/-- The wording of a fault in a text. -/
def message (text : String) (f : JsonFault) : String :=
  let p := f.place text
  f.error.text ++ " at line " ++ toString p.line ++ " column " ++ toString p.column

end JsonFault

/-- Reads something from the start of a text and gives what follows it. -/
abbrev JsonReader (α : Type) := List Char → Except JsonFault (α × List Char)

namespace JsonReader

/-- A fault before the rest of the text. -/
def failHere {α : Type} (e : JsonError) (rest : List Char) : Except JsonFault α := .error ⟨e, rest, 0⟩

/-- A fault that takes in the next byte of the text, if there is one. -/
def failNext {α : Type} (e : JsonError) (rest : List Char) : Except JsonFault α := .error ⟨e, rest, 1⟩

end JsonReader

end QueryDrill
