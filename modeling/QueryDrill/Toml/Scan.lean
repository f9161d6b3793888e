import QueryDrill.Number.Binary
import QueryDrill.Json.Basic
/-!
The words, strings, numbers and times of a TOML text.

A reader gives what it read and the rest of the text, or nothing if the text does not read.
-/

namespace QueryDrill.Toml

/-- Reads something from the start of a text and gives what follows it. -/
abbrev Reader (α : Type) := List Char → Option (α × List Char)

/-! ## 1. Blanks, comments and line ends -/

/-- Whether a character is a blank inside a line. -/
def isBlank (c : Char) : Bool := c == ' ' || c == '\t'

/-- A text without its leading blanks. -/
def skipBlanks (cs : List Char) : List Char := cs.dropWhile isBlank

/-- Whether a character may stand anywhere in a line: control characters other than tabs may not. -/
def isPlain (c : Char) : Bool := c == '\t' || (decide (32 ≤ c.toNat) && c.toNat != 127)

/-- Passes over a line end. -/
def newline? : List Char → Option (List Char)
  | '\n' :: cs => some cs
  | '\r' :: '\n' :: cs => some cs
  | _ => none

/-- Passes over a comment if there is one. -/
def skipComment : List Char → List Char
  | '#' :: cs => cs.dropWhile isPlain
  | cs => cs

/-- Passes over the end of a line, with blanks and a comment before it. The end of the text ends a line
too. -/
def lineEnd? (cs : List Char) : Option (List Char) :=
  match skipComment (skipBlanks cs) with
  | [] => some []
  | rest => newline? rest

/-- Passes over blanks, comments and line ends; `fuel` bounds the number of lines. -/
def skipLines : Nat → List Char → List Char
  | 0, cs => cs
  | fuel + 1, cs =>
    let rest := skipBlanks cs
    match skipComment rest with
    | [] => []
    | c :: after =>
      match newline? (c :: after) with
      | some next => skipLines fuel next
      | none => rest

/-- Passes over blanks, comments and line ends between the parts of a value. -/
def skipSpace (cs : List Char) : List Char := skipLines (cs.length + 1) cs

/-- Passes over blanks and line ends; `fuel` bounds the number of lines. -/
def skipEmptyLines : Nat → List Char → List Char
  | 0, cs => cs
  | fuel + 1, cs =>
    let rest := skipBlanks cs
    match newline? rest with
    | some rest => skipEmptyLines fuel rest
    | none => rest

/-! ## 2. Strings -/

/-- The value of a hexadecimal digit. -/
def hexValue? (c : Char) : Option Nat :=
  if c.isDigit then some (c.toNat - '0'.toNat)
  else if 'a' ≤ c ∧ c ≤ 'f' then some (c.toNat - 'a'.toNat + 10)
  else if 'A' ≤ c ∧ c ≤ 'F' then some (c.toNat - 'A'.toNat + 10)
  else none

/-- Reads a character that is written by a number of hexadecimal digits. -/
def codedChar (count : Nat) : Reader Char := fun cs =>
  let digits := cs.take count
  if digits.length < count then none
  else do
    let values ← digits.mapM hexValue?
    let n := values.foldl (fun n d => n * 16 + d) 0
    if n.isValidChar then some (Char.ofNat n, cs.drop count) else none

/-- Reads what follows a backslash. -/
def escape : Reader Char
  | 'b' :: cs => some ('\x08', cs)
  | 't' :: cs => some ('\t', cs)
  | 'n' :: cs => some ('\n', cs)
  | 'f' :: cs => some ('\x0c', cs)
  | 'r' :: cs => some ('\r', cs)
  | '"' :: cs => some ('"', cs)
  | '\\' :: cs => some ('\\', cs)
  | 'u' :: cs => codedChar 4 cs
  | 'U' :: cs => codedChar 8 cs
  | _ => none

/-- Reads a string in double quotes after the opening one; `fuel` bounds its length. -/
def basicChars : Nat → Reader (List Char)
  | 0, _ => none
  | _ + 1, [] => none
  | fuel + 1, c :: cs =>
    if c = '"' then some ([], cs)
    else if c = '\\' then do
      let (e, rest) ← escape cs
      let (es, rest) ← basicChars fuel rest
      return (e :: es, rest)
    else if isPlain c then do
      let (es, rest) ← basicChars fuel cs
      return (c :: es, rest)
    else none

/-- Reads a string in single quotes after the opening one. -/
def literalChars : Reader (List Char)
  | [] => none
  | c :: cs =>
    if c = '\'' then some ([], cs)
    else if isPlain c then do
      let (es, rest) ← literalChars cs
      return (c :: es, rest)
    else none

/-- The number of quotes at the start of a text. -/
def quotesAhead (quote : Char) (cs : List Char) : Nat := (cs.takeWhile (· == quote)).length

/-- Reads a string of several lines after the opening quotes; `fuel` bounds its length. Up to two quotes
may stand anywhere in it, also just before the closing three. A backslash, where it `escapes`, stands for
a character or passes over a line end and the blanks after it. -/
def longChars (quote : Char) (escapes : Bool) : Nat → Reader (List Char)
  | 0, _ => none
  | fuel + 1, cs =>
    match cs with
    | [] => none
    | c :: rest =>
      if c = quote then
        let n := quotesAhead quote cs
        if n < 3 then do
          let (es, rest) ← longChars quote escapes fuel rest
          return (c :: es, rest)
        else if n ≤ 5 then some (List.replicate (n - 3) quote, cs.drop n)
        else none
      else if escapes && c == '\\' then
        match newline? (skipBlanks rest) with
        | some next => longChars quote escapes fuel (skipEmptyLines (next.length + 1) next)
        | none => do
          let (e, rest) ← escape rest
          let (es, rest) ← longChars quote escapes fuel rest
          return (e :: es, rest)
      else if isPlain c then do
        let (es, rest) ← longChars quote escapes fuel rest
        return (c :: es, rest)
      else do
        let (es, rest) ← longChars quote escapes fuel (← newline? cs)
        return ('\n' :: es, rest)

/-- A text without a line end at its start. -/
def dropNewline (cs : List Char) : List Char := (newline? cs).getD cs

/-- Reads a string. -/
def string? : Reader String := fun cs =>
  let asString (r : Option (List Char × List Char)) : Option (String × List Char) :=
    r.map fun (chars, rest) => (String.ofList chars, rest)
  match cs with
  | '"' :: '"' :: '"' :: rest => asString (longChars '"' true (rest.length + 1) (dropNewline rest))
  | '\'' :: '\'' :: '\'' :: rest => asString (longChars '\'' false (rest.length + 1) (dropNewline rest))
  | '"' :: rest => asString (basicChars (rest.length + 1) rest)
  | '\'' :: rest => asString (literalChars rest)
  | _ => none

/-! ## 3. Keys -/

/-- Whether a character may stand in a key without quotes. -/
def isKeyChar (c : Char) : Bool := c.isAlphanum || c == '_' || c == '-'

/-- Reads one part of a key. -/
def simpleKey : Reader String := fun cs =>
  match cs with
  | '"' :: rest => (basicChars (rest.length + 1) rest).map fun (chars, rest) => (String.ofList chars, rest)
  | '\'' :: rest => (literalChars rest).map fun (chars, rest) => (String.ofList chars, rest)
  | _ =>
    if (cs.takeWhile isKeyChar).isEmpty then none
    else some (String.ofList (cs.takeWhile isKeyChar), cs.dropWhile isKeyChar)

/-- Reads the parts of a key between points, with blanks around them; `fuel` bounds their number. -/
def keyParts : Nat → Reader (List String)
  | 0, _ => none
  | fuel + 1, cs => do
    let (part, rest) ← simpleKey (skipBlanks cs)
    match skipBlanks rest with
    | '.' :: rest => do
      let (parts, rest) ← keyParts fuel rest
      return (part :: parts, rest)
    | rest => return ([part], rest)

/-- How deep keys and values may be. -/
def depthLimit : Nat := 79

/-- Reads a key. -/
def key : Reader (List String) := keyParts depthLimit

/-! ## 4. Numbers -/

/-- Reads digits, which underscores may separate one by one; `owed` tells that a digit must come next. -/
def digitsAfter (isDigit : Char → Bool) (owed : Bool) : Reader (List Char)
  | [] => if owed then none else some ([], [])
  | c :: cs =>
    if isDigit c then (digitsAfter isDigit false cs).map fun (ds, rest) => (c :: ds, rest)
    else if owed then none
    else if c = '_' then digitsAfter isDigit true cs
    else some ([], c :: cs)

/-- Reads at least one digit. -/
def digitRun (isDigit : Char → Bool) : Reader (List Char) := digitsAfter isDigit true

/-- The number that digits write. -/
def numberOf (base : Nat) (digits : List Char) : Nat :=
  digits.foldl (fun n c => n * base + (hexValue? c).getD 0) 0

/-- A whole number of 64 bits. -/
def integer? (n : Int) : Option Json :=
  if -0x8000000000000000 ≤ n ∧ n < 0x8000000000000000 then some (.number (.whole n)) else none

/-- Reads a whole number to another base than ten. -/
def basedInteger (base : Nat) (isDigit : Char → Bool) : Reader Json := fun cs => do
  let (digits, rest) ← digitRun isDigit cs
  return (← integer? (numberOf base digits), rest)

/-- Reads the digits before a point. More than one do not start with zero. -/
def leadingDigits : Reader (List Char)
  | '0' :: cs => some (['0'], cs)
  | cs => digitRun Char.isDigit cs

/-- Reads a power of ten after its letter. -/
def power : Reader Int
  | '-' :: cs => (digitRun Char.isDigit cs).map fun (ds, rest) => (-(numberOf 10 ds : Int), rest)
  | '+' :: cs => (digitRun Char.isDigit cs).map fun (ds, rest) => ((numberOf 10 ds : Int), rest)
  | cs => (digitRun Char.isDigit cs).map fun (ds, rest) => ((numberOf 10 ds : Int), rest)

/-- Reads a power of ten if there is one. -/
def optionalPower : Reader Int
  | 'e' :: cs => power cs
  | 'E' :: cs => power cs
  | cs => some (0, cs)

/-- The binary number that is written by digits and a power of ten; only downwards it may be infinite. -/
def float? (negative : Bool) (digits : List Char) (exponent : Int) : Option Json :=
  match Binary.ofDecimal .double negative (numberOf 10 digits) exponent with
  | .infinite false => none
  | x => some (.number (.real x))

/-- Reads a number after its sign. -/
def unsigned (negative : Bool) : Reader Json
  | 'i' :: 'n' :: 'f' :: cs => some (.number (.real (.infinite negative)), cs)
  | 'n' :: 'a' :: 'n' :: cs => some (.number (.real .nan), cs)
  | cs => do
    let (digits, rest) ← leadingDigits cs
    match rest with
    | '.' :: rest => do
      let (places, rest) ← digitRun Char.isDigit rest
      let (exponent, rest) ← optionalPower rest
      return (← float? negative (digits ++ places) (exponent - places.length), rest)
    | 'e' :: rest => do
      let (exponent, rest) ← power rest
      return (← float? negative digits exponent, rest)
    | 'E' :: rest => do
      let (exponent, rest) ← power rest
      return (← float? negative digits exponent, rest)
    | rest =>
      let n : Int := numberOf 10 digits
      return (← integer? (if negative then -n else n), rest)

/-- Reads a number. -/
def number : Reader Json
  | '+' :: cs => unsigned false cs
  | '-' :: cs => unsigned true cs
  | '0' :: 'x' :: cs => basedInteger 16 (fun c => (hexValue? c).isSome) cs
  | '0' :: 'o' :: cs => basedInteger 8 (fun c => decide ('0' ≤ c ∧ c ≤ '7')) cs
  | '0' :: 'b' :: cs => basedInteger 2 (fun c => c == '0' || c == '1') cs
  | cs => unsigned false cs

/-! ## 5. Times -/

/-- Reads a number with exactly so many digits, within bounds. -/
def fixedDigits (count least greatest : Nat) : Reader Nat := fun cs =>
  let digits := cs.take count
  if digits.length = count ∧ digits.all Char.isDigit then
    let n := numberOf 10 digits
    if least ≤ n ∧ n ≤ greatest then some (n, cs.drop count) else none
  else none

/-- Passes over a character. -/
def expect (c : Char) : List Char → Option (List Char)
  | d :: cs => if d = c then some cs else none
  | [] => none

/-- The number of days of a month. -/
def daysIn (year month : Nat) : Nat :=
  if month = 2 then
    if year % 4 = 0 ∧ (year % 100 ≠ 0 ∨ year % 400 = 0) then 29 else 28
  else if [4, 6, 9, 11].contains month then 30
  else 31

/-- Passes over a date. -/
def skipDate (cs : List Char) : Option (List Char) := do
  let (year, rest) ← fixedDigits 4 0 9999 cs
  let (month, rest) ← fixedDigits 2 1 12 (← expect '-' rest)
  let (_, rest) ← fixedDigits 2 1 (daysIn year month) (← expect '-' rest)
  return rest

/-- Passes over the fraction of a second if there is one. -/
def skipFraction : List Char → Option (List Char)
  | '.' :: c :: cs => if c.isDigit then some (cs.dropWhile Char.isDigit) else none
  | '.' :: [] => none
  | cs => some cs

/-- Passes over a time of the day. -/
def skipTime (cs : List Char) : Option (List Char) := do
  let (_, rest) ← fixedDigits 2 0 23 cs
  let (_, rest) ← fixedDigits 2 0 59 (← expect ':' rest)
  let (_, rest) ← fixedDigits 2 0 60 (← expect ':' rest)
  skipFraction rest

/-- Passes over the offset of a time if there is one. -/
def skipOffset : List Char → Option (List Char)
  | c :: cs =>
    if c = 'Z' ∨ c = 'z' then some cs
    else if c = '+' ∨ c = '-' then do
      let (_, rest) ← fixedDigits 2 0 23 cs
      let (_, rest) ← fixedDigits 2 0 59 (← expect ':' rest)
      return rest
    else some (c :: cs)
  | [] => some []

/-- Whether a text starts with an hour and a colon. -/
def startsTime (cs : List Char) : Bool :=
  match cs with
  | a :: b :: ':' :: _ => a.isDigit && b.isDigit
  | _ => false

/-- Whether a text starts with a year and a hyphen. -/
def startsDate (cs : List Char) : Bool :=
  match cs with
  | a :: b :: c :: d :: '-' :: _ => [a, b, c, d].all Char.isDigit
  | _ => false

/-- A time as a value: an object with a field that no record has. -/
def timeValue : Json := .object [("$time", .null)]

/-- Reads a date, perhaps with a time. -/
def date : Reader Json := fun cs => do
  let rest ← skipDate cs
  match rest with
  | c :: next =>
    if (c = 'T' ∨ c = 't' ∨ c = ' ') && startsTime next then
      return (timeValue, ← skipOffset (← skipTime next))
    else return (timeValue, rest)
  | [] => return (timeValue, [])

/-- Reads a number or a time. -/
def numberOrTime : Reader Json := fun cs =>
  if startsDate cs then date cs
  else if startsTime cs then (skipTime cs).map fun rest => (timeValue, rest)
  else number cs

end QueryDrill.Toml
