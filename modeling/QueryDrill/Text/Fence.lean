import QueryDrill.Text.Blank
/-!
Code fences: three backticks around a text, the first followed by a word for the kind of text.
-/

namespace QueryDrill.Text

/-- Three backticks. -/
def fence : List Char := "```".toList

/-- What is after the first line, or the whole text if it is one line. -/
def afterFirstLine (cs : List Char) : List Char :=
  match splitLine? cs with
  | some (_, rest) => rest
  | none => cs

/-- A text without the fence at its end, if there is one. -/
def dropClosingFence (cs : List Char) : List Char := (dropSuffix? fence (trimEndChars cs)).getD cs

/-- A text without blanks and the fence around it. -/
def stripFenceChars (cs : List Char) : List Char :=
  let inner := trimChars cs
  match dropPrefix? fence inner with
  | none => inner
  | some rest => trimChars (dropClosingFence (afterFirstLine rest))

/-- A text without blanks and the fence around it. -/
def stripFence (s : String) : String := String.ofList (stripFenceChars s.toList)

end QueryDrill.Text
