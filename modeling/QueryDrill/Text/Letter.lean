import QueryDrill.Text.Case
import QueryDrill.Text.LetterTable
/-!
Letters and numbers among the characters, by the Alphabetic property and the number categories of the
Unicode standard.
-/

namespace QueryDrill.Text

/-- Whether a character is alphabetic. -/
def isLetter (c : Char) : Bool :=
  if c.toNat < 0x80 then c.isAlpha else inRanges letterRanges c.toNat

/-- Whether a character is a number: a digit, a letter used as a number, or a fraction and the like. -/
def isNumber (c : Char) : Bool :=
  if c.toNat < 0x80 then c.isDigit else inRanges numberRanges c.toNat

end QueryDrill.Text
