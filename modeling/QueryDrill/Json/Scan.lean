import QueryDrill.Json.Basic
import QueryDrill.Json.Fault
/-!
The words, strings and numbers of a JSON text.

Each reader starts after the character that told which one to use: a string after its opening quote, a
word after its first letter, a negative number after its sign.
-/

namespace QueryDrill

namespace JsonReader

/-! ## 1. Blanks and words -/

/-- Whether a character may stand between the parts of a JSON text. -/
def isJsonBlank (c : Char) : Bool := c == ' ' || c == '\n' || c == '\t' || c == '\r'

/-- A text without its leading blanks. -/
def skipBlanks (cs : List Char) : List Char := cs.dropWhile isJsonBlank

/-- Reads the rest of a word. -/
def word : List Char → List Char → Except JsonFault (List Char)
  | [], cs => .ok cs
  | _ :: _, [] => failHere .endInValue []
  | e :: es, c :: cs => if c = e then word es cs else failNext .expectedWord (c :: cs)

/-! ## 2. Strings -/

/-- The value of a hexadecimal digit. -/
def hexDigit? (c : Char) : Option Nat :=
  if c.isDigit then some (c.toNat - '0'.toNat)
  else if 'a' ≤ c ∧ c ≤ 'f' then some (c.toNat - 'a'.toNat + 10)
  else if 'A' ≤ c ∧ c ≤ 'F' then some (c.toNat - 'A'.toNat + 10)
  else none

/-- The value of four hexadecimal digits. -/
def fourHexDigits? (a b c d : Char) : Option Nat := do
  return (((← hexDigit? a) * 16 + (← hexDigit? b)) * 16 + (← hexDigit? c)) * 16 + (← hexDigit? d)

/-- Reads four hexadecimal digits. -/
def codeUnit (cs : List Char) : Except JsonFault (Nat × List Char) :=
  let bad := if 4 ≤ (bytesOf (cs.take 4)).length then .error ⟨.badEscape, cs, 4⟩ else failHere .endInString []
  match cs with
  | a :: b :: c :: d :: rest =>
    match fourHexDigits? a b c d with
    | some n => .ok (n, rest)
    | none => bad
  | _ => bad

/-- Whether a code unit is the first of a surrogate pair. -/
def isLeading (n : Nat) : Bool := decide (0xD800 ≤ n ∧ n ≤ 0xDBFF)

/-- Whether a code unit is the second of a surrogate pair. -/
def isTrailing (n : Nat) : Bool := decide (0xDC00 ≤ n ∧ n ≤ 0xDFFF)

/-- Reads the second half of a surrogate pair. -/
def trailingUnit : List Char → Except JsonFault (Nat × List Char)
  | [] => failHere .endInString []
  | '\\' :: 'u' :: cs => do
    let (n, rest) ← codeUnit cs
    if isTrailing n then .ok (n, rest) else failHere .loneSurrogate rest
  | ['\\'] => failHere .endInString []
  | '\\' :: cs => failNext .unfinishedSurrogate cs
  | cs => failNext .unfinishedSurrogate cs

/-- Reads a character that is written by its code. -/
def codedChar (cs : List Char) : Except JsonFault (Char × List Char) := do
  let (n, rest) ← codeUnit cs
  if isTrailing n then failHere .loneSurrogate rest
  else if isLeading n then
    let (m, rest) ← trailingUnit rest
    return (Char.ofNat (0x10000 + (n - 0xD800) * 1024 + (m - 0xDC00)), rest)
  else return (Char.ofNat n, rest)

/-- The character that a letter after a backslash stands for. -/
def escaped? : Char → Option Char
  | '"' => some '"'
  | '\\' => some '\\'
  | '/' => some '/'
  | 'b' => some '\x08'
  | 'f' => some '\x0c'
  | 'n' => some '\n'
  | 'r' => some '\r'
  | 't' => some '\t'
  | _ => none

/-- Reads what follows a backslash. -/
def escape : List Char → Except JsonFault (Char × List Char)
  | [] => failHere .endInString []
  | c :: cs =>
    if c = 'u' then codedChar cs
    else
      match escaped? c with
      | some e => .ok (e, cs)
      | none => failNext .badEscape (c :: cs)

/-- Whether a character must not stand in a string. -/
def isControl (c : Char) : Bool := decide (c.toNat < 32)

/-- Reads the characters of a string up to its closing quote; `fuel` bounds their number. -/
def stringChars : Nat → List Char → Except JsonFault (List Char × List Char)
  | 0, cs => failHere .endInString cs
  | _ + 1, [] => failHere .endInString []
  | fuel + 1, c :: cs =>
    if c = '"' then .ok ([], cs)
    else if c = '\\' then do
      let (e, rest) ← escape cs
      let (es, rest) ← stringChars fuel rest
      return (e :: es, rest)
    else if isControl c then failHere .controlCharacter cs
    else do
      let (es, rest) ← stringChars fuel cs
      return (c :: es, rest)

/-- Reads a string. -/
def stringBody : JsonReader String := fun cs => do
  let (chars, rest) ← stringChars (cs.length + 1) cs
  return (String.ofList chars, rest)

/-- Passes over what follows a backslash; codes are not paired. -/
def skipEscape : List Char → Except JsonFault (List Char)
  | [] => failHere .endInString []
  | c :: cs =>
    if c = 'u' then (codeUnit cs).map Prod.snd
    else if (escaped? c).isSome then .ok cs
    else failNext .badEscape (c :: cs)

/-- Passes over a string; `fuel` bounds the number of its characters. -/
def skipStringChars : Nat → List Char → Except JsonFault (List Char)
  | 0, cs => failHere .endInString cs
  | _ + 1, [] => failHere .endInString []
  | fuel + 1, c :: cs =>
    if c = '"' then .ok cs
    else if c = '\\' then do skipStringChars fuel (← skipEscape cs)
    else if isControl c then failHere .controlCharacter (c :: cs)
    else skipStringChars fuel cs

/-- Passes over a string. -/
def skipString (cs : List Char) : Except JsonFault (List Char) := skipStringChars (cs.length + 1) cs

/-! ## 3. Numbers -/

/-- The greatest whole number that is read as such. -/
def greatestWhole : Nat := UInt64.size - 1

/-- The greatest number of digits by which a point is moved. -/
def greatestPower : Nat := 0x7fffffff

/-- The value of a decimal digit. -/
def digitValue (c : Char) : Nat := c.toNat - '0'.toNat

/-- Appends digits to a number while it stays within a limit: the number, how many digits were appended,
and the rest of the text. -/
def appendDigits (limit value : Nat) : List Char → Nat × Nat × List Char
  | [] => (value, 0, [])
  | c :: cs =>
    if c.isDigit && decide (value * 10 + digitValue c ≤ limit) then
      let (v, n, rest) := appendDigits limit (value * 10 + digitValue c) cs
      (v, n + 1, rest)
    else (value, 0, c :: cs)

/-- Whether a text starts with a digit. -/
def startsWithDigit : List Char → Bool
  | c :: _ => c.isDigit
  | [] => false

/-- A number divided by powers of ten that are not greater than `10 ^ 308`. -/
def scaledDown (x : Binary) : Nat → Nat → Binary
  | 0, _ => x
  | fuel + 1, power =>
    match x with
    | .finite negative m e =>
      if m = 0 then x
      else
        let (num, den) := Binary.fraction m e
        let step := min power 308
        match Binary.ofDecimal .double false 1 step with
        | .finite _ m' e' =>
          let (num', den') := Binary.fraction m' e'
          let y := Binary.round .double negative (num * den') (den * num')
          if power ≤ 308 then y else scaledDown y fuel (power - 308)
        | _ => x
    | _ => x

/-- The number next to `significand` times ten to the exponent, each step rounded: the significand, the
power of ten, and their product or quotient. Nothing if it is too large. -/
def realOf? (negative : Bool) (significand : Nat) (exponent : Int) : Option Binary :=
  let x := Binary.round .double negative significand 1
  match exponent with
  | .negSucc k => some (scaledDown x 4 (k + 1))
  | .ofNat k =>
    if significand = 0 then some x
    else if 308 < k then none
    else
      match x, Binary.ofDecimal .double false 1 k with
      | .finite _ m e, .finite _ m' e' =>
        let (num, den) := Binary.fraction m e
        let (num', den') := Binary.fraction m' e'
        match Binary.round .double negative (num * num') (den * den') with
        | .infinite _ => none
        | y => some y
      | _, _ => none

/-- Ends a number that is not whole. -/
def real (negative : Bool) (significand : Nat) (exponent : Int) : JsonReader JsonNumber := fun cs =>
  match realOf? negative significand exponent with
  | some x => .ok (.real x, cs)
  | none => failHere .numberTooLarge cs

/-- A power of ten within the limits. -/
def clampPower (n : Int) : Int := max (-(greatestPower : Int) - 1) (min (greatestPower : Int) n)

/-- Reads the digits of a power of ten. -/
def power (negative : Bool) (significand : Nat) (exponent : Int) (down : Bool) : JsonReader JsonNumber
  | [] => failHere .endInValue []
  | c :: cs =>
    if !c.isDigit then failNext .badNumber (c :: cs)
    else
      let (n, _, rest) := appendDigits greatestPower (digitValue c) cs
      if startsWithDigit rest then
        if significand ≠ 0 && !down then failHere .numberTooLarge (rest.drop 1)
        else .ok (.real (.finite negative 0 (-1074)), rest.dropWhile Char.isDigit)
      else real negative significand (clampPower (if down then exponent - n else exponent + n)) rest

/-- Reads a power of ten after its letter. -/
def exponentPart (negative : Bool) (significand : Nat) (exponent : Int) : JsonReader JsonNumber
  | '+' :: cs => power negative significand exponent false cs
  | '-' :: cs => power negative significand exponent true cs
  | cs => power negative significand exponent false cs

/-- Whether a character starts a power of ten. -/
def isExponentMark (c : Char) : Bool := c == 'e' || c == 'E'

/-- Reads a power of ten if there is one. -/
def afterFraction (negative : Bool) (significand : Nat) (exponent : Int) : JsonReader JsonNumber
  | c :: cs =>
    if isExponentMark c then exponentPart negative significand exponent cs
    else real negative significand exponent (c :: cs)
  | [] => real negative significand exponent []

/-- Reads the digits after a point. Digits that do not fit any more are passed over. -/
def fractionPart (negative : Bool) (significand : Nat) (exponent : Int) : JsonReader JsonNumber := fun cs =>
  let (value, n, rest) := appendDigits greatestWhole significand cs
  if startsWithDigit rest then
    afterFraction negative value (exponent - n) (rest.dropWhile Char.isDigit)
  else if n = 0 then
    if rest.isEmpty then failHere .endInValue rest else failNext .badNumber rest
  else afterFraction negative value (exponent - n) rest

/-- A whole number, or the number next to it if it is out of range. Zero has a sign only as a number that
is not whole. -/
def wholeOrReal (negative : Bool) (significand : Nat) : JsonNumber :=
  if !negative then .whole significand
  else if significand = 0 ∨ 0x8000000000000000 < significand then .real (Binary.round .double true significand 1)
  else .whole (-significand)

/-- Reads what may follow the digits of a whole number. -/
def afterDigits (negative : Bool) (significand : Nat) : JsonReader JsonNumber
  | c :: cs =>
    if c = '.' then fractionPart negative significand 0 cs
    else if isExponentMark c then exponentPart negative significand 0 cs
    else .ok (wholeOrReal negative significand, c :: cs)
  | [] => .ok (wholeOrReal negative significand, [])

/-- Reads the further digits of a number that is too large to be whole. -/
def longNumber (negative : Bool) (significand : Nat) : JsonReader JsonNumber := fun cs =>
  let exponent : Int := (cs.takeWhile Char.isDigit).length
  match cs.dropWhile Char.isDigit with
  | '.' :: rest => fractionPart negative significand exponent rest
  | rest => afterFraction negative significand exponent rest

/-- Reads a number after its sign. -/
def numberBody (negative : Bool) : JsonReader JsonNumber
  | [] => failHere .endInValue []
  | c :: cs =>
    if c = '0' then
      if startsWithDigit cs then failNext .badNumber cs else afterDigits negative 0 cs
    else if c.isDigit then
      let (value, _, rest) := appendDigits greatestWhole (digitValue c) cs
      if startsWithDigit rest then longNumber negative value rest else afterDigits negative value rest
    else failNext .badNumber (c :: cs)

/-- Passes over a power of ten after its letter. -/
def skipPower (cs : List Char) : Except JsonFault (List Char) :=
  let digits := match cs with
    | '+' :: rest | '-' :: rest => rest
    | _ => cs
  if startsWithDigit digits then .ok (digits.dropWhile Char.isDigit) else failNext .badNumber digits

/-- Passes over a power of ten if there is one. -/
def skipExponent : List Char → Except JsonFault (List Char)
  | c :: cs => if isExponentMark c then skipPower cs else .ok (c :: cs)
  | [] => .ok []

/-- Passes over what may follow the digits of a whole number. -/
def skipFraction : List Char → Except JsonFault (List Char)
  | '.' :: cs =>
    if startsWithDigit cs then skipExponent (cs.dropWhile Char.isDigit) else failNext .badNumber cs
  | cs => skipExponent cs

/-- Passes over a number after its sign. -/
def skipNumber : List Char → Except JsonFault (List Char)
  | [] => failHere .badNumber []
  | c :: cs =>
    if c = '0' then if startsWithDigit cs then failNext .badNumber cs else skipFraction cs
    else if c.isDigit then skipFraction (cs.dropWhile Char.isDigit)
    else failNext .badNumber (c :: cs)

end JsonReader

end QueryDrill
