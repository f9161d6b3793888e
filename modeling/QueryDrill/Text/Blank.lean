/-!
Blank characters and the trimming of a text.

A character is blank when it has the White_Space property of the Unicode standard; that set is larger
than the blanks of ASCII.
-/

namespace QueryDrill.Text

/-- The White_Space property. -/
def isBlank (c : Char) : Bool :=
  let n := c.toNat
  (9 ≤ n && n ≤ 13) || n == 0x20 || n == 0x85 || n == 0xA0 || n == 0x1680
    || (0x2000 ≤ n && n ≤ 0x200A) || n == 0x2028 || n == 0x2029 || n == 0x202F || n == 0x205F
    || n == 0x3000

/-- Drops the blanks at the front. -/
def trimStartChars (cs : List Char) : List Char := cs.dropWhile isBlank

/-- Drops the blanks at the end. -/
def trimEndChars (cs : List Char) : List Char := (cs.reverse.dropWhile isBlank).reverse

/-- Drops the blanks at both ends. -/
def trimChars (cs : List Char) : List Char := trimEndChars (trimStartChars cs)

/-- A text without the blanks at its front. -/
def trimStart (s : String) : String := String.ofList (trimStartChars s.toList)

/-- A text without the blanks at its end. -/
def trimEnd (s : String) : String := String.ofList (trimEndChars s.toList)

/-- A text without the blanks at both ends. -/
def trim (s : String) : String := String.ofList (trimChars s.toList)

/-- Whether a text holds nothing but blanks. -/
def isBlankText (s : String) : Bool := s.toList.all isBlank

/-- Whether the characters of `p` open `cs`, and what follows them. -/
def dropPrefix? : List Char → List Char → Option (List Char)
  | [], cs => some cs
  | _ :: _, [] => none
  | p :: ps, c :: cs => if p = c then dropPrefix? ps cs else none

/-- What precedes the characters of `p` at the end of `cs`, when they stand there. -/
def dropSuffix? (p cs : List Char) : Option (List Char) :=
  (dropPrefix? p.reverse cs.reverse).map List.reverse

/-- The text before and after the first newline, when there is one. -/
def splitLine? : List Char → Option (List Char × List Char)
  | [] => none
  | c :: cs => if c = '\n' then some ([], cs) else (splitLine? cs).map fun (a, b) => (c :: a, b)

/-- The lines of a text: a newline ends a line, and a carriage return before it is dropped. -/
def linesOf (cs : List Char) : List (List Char) := go [] cs
where
  /-- Collects the current line in reverse. -/
  go (line : List Char) : List Char → List (List Char)
    | [] => if line.isEmpty then [] else [line.reverse]
    | c :: r =>
      if c = '\n' then
        (match line with
          | '\r' :: l => l.reverse
          | l => l.reverse) :: go [] r
      else go (c :: line) r

end QueryDrill.Text
